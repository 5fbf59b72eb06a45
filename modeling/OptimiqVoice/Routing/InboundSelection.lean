import OptimiqVoice.Routing.Entries

namespace OptimiqVoice.Routing

open Lib Compile

/-- Patterns from the most to the least specific: exact before prefixes, longer
prefixes before shorter ones, then regular expressions, then any number. -/
def patternRank : CompiledPattern → Lex (Nat × Int)
  | .exact _ => toLex (0, 0)
  | .prefixed value => toLex (1, -(value.length : Int))
  | .regex _ => toLex (2, 0)
  | .any => toLex (3, 0)

section rows

variable (p : Platform) (w : OrgRoutingSnapshot) (artifact : RoutingArtifact)

/-- Routes in the order of their priority; among equals those bound to a number
before all others, then by pattern, then in the order of their ids. -/
def answerRank (route : InboundRouteInput) :
    Lex (Int × Lex (Lex (Nat × Lex (Nat × Int)) × JsString)) :=
  toLex (route.priority, toLex (toLex (if (boundE164 w route).isSome then 0 else 1,
    patternRank (inboundPattern p route)), route.id))

structure CanAnswer (input : ResolveInboundInput) (route : InboundRouteInput) : Prop where
  enabled : route.enabled = true
  binding : ∀ e164 ∈ boundE164 w route, e164 = input.did
  pattern : (matchPattern p (inboundPattern p route) input.did).isSome = true
  caller : ∀ screen ∈ callerScreen p route, ∃ number ∈ input.callerNumber,
    (matchPattern p screen number).isSome = true
  gate : routeGate p w artifact route.timeConditionId route.failover input.now ≠ .closed false

/-- The call goes where the route sends it: to its destination, or to the closed
branch of its time condition. -/
structure AnsweredBy (input : ResolveInboundInput) (route : InboundRouteInput)
    (result : ResolvedRoute) : Prop where
  matched : result.matched = true
  ruleId : result.matchedRuleId = some route.id
  ruleName : result.matchedRuleName = some route.name
  entry : ∃ rule ∈ artifact.inbound.rules, AnswersFor p w route rule ∧ ∃ node walked,
    followGates p artifact (some node) input.now = some (result.plan.entryNodeId, walked) ∧
    match routeGate p w artifact route.timeConditionId route.failover input.now with
    | .opened => node = rule.destinationNodeId
    | .closed _ => ∃ gate ∈ rule.timeGate, gate.closedNodeId = some node

/-- What becomes of an inbound call, read off the rows. -/
inductive AnswersLeast (input : ResolveInboundInput) : Option ResolvedRoute → Prop where
  | answered {route : InboundRouteInput} {result : ResolvedRoute}
      (hmem : route ∈ w.inboundRoutes) (hcan : CanAnswer p w artifact input route)
      (hleast : ∀ other ∈ w.inboundRoutes, CanAnswer p w artifact input other →
        answerRank p w route ≤ answerRank p w other)
      (hanswered : AnsweredBy p w artifact input route result) : AnswersLeast input (some result)
  | default {number : PhoneNumberInput} {entry : InboundDidDefault} {result : ResolvedRoute}
      {walked : List Diagnostic}
      (hnone : ∀ route ∈ w.inboundRoutes, ¬CanAnswer p w artifact input route)
      (hmem : number ∈ w.phoneNumbers) (henabled : number.enabled = true)
      (hvoice : number.voiceEnabled = true) (hdid : number.e164 = input.did)
      (hentry : artifact.inbound.didDefaults.lookup input.did = .own entry)
      (howner : entry.phoneNumberId = number.id) (hmatched : result.matched = true)
      (hruleId : result.matchedRuleId = some number.id)
      (hnode : followGates p artifact (some entry.destinationNodeId) input.now =
        some (result.plan.entryNodeId, walked)) : AnswersLeast input (some result)
  | unallocated {result : ResolvedRoute}
      (hnone : ∀ route ∈ w.inboundRoutes, ¬CanAnswer p w artifact input route)
      (hnumber : ∀ number ∈ w.phoneNumbers, number.enabled = true → number.voiceEnabled = true →
        number.e164 ≠ input.did) (hmatched : result.matched = false)
      (hentry : result.plan.entryNodeId = some (hangupId .unallocatedNumber)) :
      AnswersLeast input (some result)

end rows

section order

/-- The offsets of the scores keep the kinds of patterns apart, as long as no
prefix is longer than a pattern may be. -/
theorem patternRank_of_specificity {a b : CompiledPattern}
    (ha : ∀ value, a = .prefixed value → value.length ≤ maxPatternLength)
    (hb : ∀ value, b = .prefixed value → value.length ≤ maxPatternLength) :
    (patternSpecificity b < patternSpecificity a → patternRank a < patternRank b) ∧
      (patternSpecificity a = patternSpecificity b → patternRank a = patternRank b) := by
  have hlt : ∀ {m n : Nat} {x y : Int}, m < n ∨ m = n ∧ x < y →
      (toLex (m, x) : Lex (Nat × Int)) < toLex (n, y) := fun h => Prod.Lex.toLex_lt_toLex.mpr h
  cases a with
  | prefixed v =>
    have hv := ha v rfl
    cases b with
    | prefixed v' =>
      have hv' := hb v' rfl
      simp only [patternSpecificity, Nat.min_eq_left hv, Nat.min_eq_left hv', patternRank]
      exact ⟨fun h => hlt (by omega), fun h => by rw [show v.length = v'.length by omega]⟩
    | _ =>
      simp only [patternSpecificity, maxPatternLength, patternRank] at hv ⊢
      exact ⟨fun h => hlt (by omega), fun h => by omega⟩
  | _ =>
    cases b with
    | prefixed v' =>
      have hv' := hb v' rfl
      simp only [patternSpecificity, maxPatternLength, patternRank] at hv' ⊢
      exact ⟨fun h => hlt (by omega), fun h => by omega⟩
    | _ =>
      simp only [patternSpecificity, patternRank]
      exact ⟨fun h => hlt (by omega), fun h => by first | rfl | omega⟩

variable {p : Platform} {w : OrgRoutingSnapshot} {a b : InboundRouteInput} {x y : InboundRule}

theorem length_le_of_usable {kind : RouteMatchKind} {raw : Option JsString}
    (h : UsablePattern p kind raw) {value : JsString}
    (hv : (compilePattern p kind raw).1 = .prefixed value) : value.length ≤ maxPatternLength := by
  cases kind with
  | prefixed =>
    simp only [compilePattern, CompiledPattern.prefixed.injEq] at hv
    subst hv
    by_contra hlong
    have hissue := h (.patternTooLong (raw.getD []).length) (by
      simp [compilePattern, lengthIssues, Nat.lt_of_not_le hlong])
    cases hissue
  | _ => cases hv

theorem patternSpecificity_le (pattern : CompiledPattern) :
    patternSpecificity pattern ≤ 1000000 := by
  cases pattern with
  | prefixed value =>
    have := Nat.min_le_right value.length maxPatternLength
    simp only [patternSpecificity, maxPatternLength] at this ⊢
    omega
  | _ => simp [patternSpecificity]

theorem boundRank_of_specificity (hx : AnswersFor p w a x) (hy : AnswersFor p w b y) :
    (inboundSpecificity y < inboundSpecificity x →
      toLex (if (boundE164 w a).isSome then 0 else 1, patternRank (inboundPattern p a)) <
        toLex (if (boundE164 w b).isSome then 0 else 1, patternRank (inboundPattern p b))) ∧
    (inboundSpecificity x = inboundSpecificity y →
      toLex (if (boundE164 w a).isSome then 0 else 1, patternRank (inboundPattern p a)) =
        toLex (if (boundE164 w b).isSome then 0 else 1, patternRank (inboundPattern p b))) := by
  have hrank := patternRank_of_specificity (a := inboundPattern p a) (b := inboundPattern p b)
    (fun _ hv => length_le_of_usable hx.usable hv) (fun _ hv => length_le_of_usable hy.usable hv)
  have hle := patternSpecificity_le (inboundPattern p a)
  have hle' := patternSpecificity_le (inboundPattern p b)
  simp only [inboundSpecificity, hx.e164, hy.e164, hx.pattern, hy.pattern, Prod.Lex.toLex_lt_toLex]
  cases boundE164 w a <;> cases boundE164 w b
  · simp only [Option.isNone_none, if_true, Option.isSome_none, Bool.false_eq_true, if_false]
    exact ⟨fun h => .inr ⟨trivial, hrank.1 (by omega)⟩, fun h => by rw [hrank.2 (by omega)]⟩
  · simp only [Option.isNone_none, Option.isNone_some, if_true, Bool.false_eq_true, if_false]
    exact ⟨fun h => by omega, fun h => by omega⟩
  · simp only [Option.isNone_none, Option.isNone_some, Option.isSome_some, Option.isSome_none,
      if_true, Bool.false_eq_true, if_false]
    exact ⟨fun _ => .inl Nat.zero_lt_one, fun h => by omega⟩
  · simp only [Option.isNone_some, Bool.false_eq_true, if_false, Option.isSome_some, if_true]
    exact ⟨fun h => .inr ⟨trivial, hrank.1 (by omega)⟩, fun h => by rw [hrank.2 (by omega)]⟩

theorem answerRank_le (hx : AnswersFor p w a x) (hy : AnswersFor p w b y)
    (h : inboundOrder x ≤ inboundOrder y) : answerRank p w a ≤ answerRank p w b := by
  have hbound := boundRank_of_specificity hx hy
  simp only [inboundOrder, Prod.Lex.toLex_le_toLex, hx.priority, hy.priority, hx.id, hy.id] at h
  simp only [answerRank, Prod.Lex.toLex_le_toLex (x := (a.priority, _)),
    Prod.Lex.toLex_le_toLex (x := (toLex (_, patternRank (inboundPattern p a)), _))]
  refine h.imp_right (fun h => ⟨h.1, ?_⟩)
  obtain hlt | ⟨heq, hid⟩ := h.2
  · exact .inl (hbound.1 (by omega))
  · exact .inr ⟨hbound.2 (by omega), hid⟩

end order

section walk

variable {p : Platform} {artifact : RoutingArtifact} {input : ResolveInboundInput}
variable {rule : InboundRule} (blocked : Option BlockOutcome)

theorem PassesCall.walk (h : PassesCall p artifact input rule) (rest : List InboundRule)
    (ds : List Diagnostic) : ∃ ds', inboundWalk p artifact input blocked (rule :: rest) ds =
      inboundWalk p artifact input blocked rest ds' := by
  cases h with
  | unmatched hm => exact ⟨ds, by simp only [inboundWalk, hm]⟩
  | shut hm hg =>
    simp only [inboundWalk, hm, hg, Option.bind_eq_bind, Option.bind_some]
    exact ⟨_, rfl⟩

theorem inboundWalk_passed {passed : List InboundRule}
    (h : ∀ rule ∈ passed, PassesCall p artifact input rule) (rest : List InboundRule)
    (ds : List Diagnostic) : ∃ ds', inboundWalk p artifact input blocked (passed ++ rest) ds =
      inboundWalk p artifact input blocked rest ds' := by
  induction passed generalizing ds with
  | nil => exact ⟨ds, rfl⟩
  | cons rule passed ih =>
    obtain ⟨ds₁, h₁⟩ := (h rule (by simp)).walk blocked (passed ++ rest) ds
    obtain ⟨ds₂, h₂⟩ := ih (fun x hx => h x (by simp [hx])) ds₁
    exact ⟨ds₂, by rw [List.cons_append, h₁, h₂]⟩

end walk

section selection

variable {p : Platform} {w : OrgRoutingSnapshot} {compiledAt : JsString}
variable {artifact : RoutingArtifact} {tables : Tables} {s : CompilerState}
variable {input : ResolveInboundInput} {route : InboundRouteInput} {rule : InboundRule}

theorem matchInboundRule_isSome (ha : AnswersFor p w route rule) (input : ResolveInboundInput) :
    (matchInboundRule p rule input).isSome = true ↔ (∀ e164 ∈ boundE164 w route, e164 = input.did) ∧
      (matchPattern p (inboundPattern p route) input.did).isSome = true ∧
      ∀ screen ∈ callerScreen p route, ∃ number ∈ input.callerNumber,
        (matchPattern p screen number).isSome = true := by
  have hbound : (boundE164 w route).all (fun e164 => decide (e164 = input.did)) = true ↔
      ∀ e164 ∈ boundE164 w route, e164 = input.did := by
    cases boundE164 w route <;> simp
  rw [matchInboundRule, ha.e164, ha.pattern, ha.callerPattern, ← hbound]
  by_cases hall : (boundE164 w route).all (fun e164 => decide (e164 = input.did)) = true
  · rw [if_pos hall]
    cases matchPattern p (inboundPattern p route) input.did with
    | none => simp
    | some captures =>
      cases callerScreen p route with
      | none => simp [hall]
      | some screen =>
        cases input.callerNumber with
        | none => simp
        | some number => cases hm : matchPattern p screen number <;> simp [hall, hm]
  · rw [if_neg hall]
    exact iff_of_false Bool.false_ne_true (fun h => hall h.1)

section

variable (h : Produces p w compiledAt artifact tables s)

include h

theorem passesCall_iff (ha : AnswersFor p w route rule) (hen : route.enabled = true) :
    PassesCall p artifact input rule ↔ ¬CanAnswer p w artifact input route := by
  have hgate := gateOf_answers h ha.gate input.now
  have hmatches := matchInboundRule_isSome ha input
  constructor
  · intro hpass hcan
    have hsome := hmatches.mpr ⟨hcan.binding, hcan.pattern, hcan.caller⟩
    cases hpass with
    | unmatched hm =>
      rw [hm] at hsome
      cases hsome
    | shut hm hg =>
      cases hs : routeGate p w artifact route.timeConditionId route.failover input.now with
      | opened =>
        rw [hs, Answers, hg] at hgate
        obtain ⟨_, hgate⟩ := hgate
        cases hgate
      | closed branch =>
        cases branch with
        | false => exact hcan.gate hs
        | true =>
          rw [hs, Answers, hg] at hgate
          obtain ⟨_, -, _, _, -, hgate⟩ := hgate
          cases hgate
  · intro hno
    cases hm : matchInboundRule p rule input with
    | none => exact .unmatched hm
    | some captures =>
      obtain ⟨hbinding, hpattern, hcaller⟩ := hmatches.mp (by rw [hm]; rfl)
      by_cases hs : routeGate p w artifact route.timeConditionId route.failover input.now =
          .closed false
      · rw [hs] at hgate
        obtain ⟨reported, hg⟩ := hgate
        exact .shut hm hg
      · exact absurd ⟨hen, hbinding, hpattern, hcaller, hs⟩ hno

theorem finishInbound_eq (rule : InboundRule)
    (node : PlanNodeId) (captures : List JsString) (ds : List Diagnostic) (blocked : Option BlockOutcome)
    (reason : Option JsString) :
    ∃ result walked, finishInbound p artifact rule node captures input ds blocked reason =
        some result ∧ result.matched = true ∧ result.matchedRuleId = some rule.id ∧
      result.matchedRuleName = some rule.name ∧
      followGates p artifact (some node) input.now = some (result.plan.entryNodeId, walked) := by
  obtain ⟨nodeId, walked, hwalk⟩ := exists_followGates (p := p) (Produces.gatesNamed h) (some node) input.now
  rw [finishInbound, hwalk]
  exact ⟨_, walked, rfl, rfl, rfl, rfl, rfl⟩

theorem inboundWalk_answered
    (ha : AnswersFor p w route rule) (hrule : rule ∈ artifact.inbound.rules)
    (hcan : CanAnswer p w artifact input route) (blocked : Option BlockOutcome)
    (rest : List InboundRule) (ds : List Diagnostic) :
    ∃ result, inboundWalk p artifact input blocked (rule :: rest) ds = some result ∧
      AnsweredBy p w artifact input route result := by
  have hgate := gateOf_answers h ha.gate input.now
  have hsome := (matchInboundRule_isSome ha input).mpr ⟨hcan.binding, hcan.pattern, hcan.caller⟩
  rw [Option.isSome_iff_exists] at hsome
  obtain ⟨captures, hm⟩ := hsome
  cases hs : routeGate p w artifact route.timeConditionId route.failover input.now with
  | opened =>
    rw [hs] at hgate
    obtain ⟨reported, hg⟩ := hgate
    obtain ⟨result, walked, hresult, hmatched, hid, hname, hwalk⟩ := finishInbound_eq h
      rule rule.destinationNodeId captures (ds ++ reported) blocked none
    refine ⟨result, ?_, hmatched, ha.id ▸ hid, ha.name ▸ hname, rule, hrule, ha, _, walked, hwalk, ?_⟩
    · simp only [inboundWalk, hm, hg, Option.bind_eq_bind, Option.bind_some, hresult]
    · rw [hs]
  | closed branch =>
    cases branch with
    | false => exact absurd hs hcan.gate
    | true =>
      rw [hs] at hgate
      obtain ⟨gate, hmem, node, reported, hnode, hg⟩ := hgate
      obtain ⟨result, walked, hresult, hmatched, hid, hname, hwalk⟩ := finishInbound_eq h
        rule node captures (ds ++ reported) blocked (some (lit "time condition closed"))
      refine ⟨result, ?_, hmatched, ha.id ▸ hid, ha.name ▸ hname, rule, hrule, ha, node, walked,
        hwalk, ?_⟩
      · simp only [inboundWalk, hm, hg, Option.bind_eq_bind, Option.bind_some, hresult]
      · rw [hs]
        exact ⟨gate, hmem, hnode⟩

theorem inboundDefault_answersLeast
    (hnone : ∀ route ∈ w.inboundRoutes, ¬CanAnswer p w artifact input route)
    (hdid : artifact.inbound.didDefaults.lookup input.did ≠ .inherited)
    (blocked : Option BlockOutcome) (ds : List Diagnostic) :
    AnswersLeast p w artifact input (inboundDefault p artifact input blocked ds) := by
  have htable : artifact.inbound = tables.inbound := by
    rw [h.artifact_eq]
    rfl
  have hmirror := h.compiled.mirror.inbound
  rw [← htable] at hmirror
  cases hl : artifact.inbound.didDefaults.lookup input.did with
  | inherited => exact absurd hl hdid
  | own entry =>
    obtain ⟨number, hmem, hen, hvoice, he164, howner, hname⟩ := hmirror.defaults.of_lookup hl
    obtain ⟨nodeId, walked, hwalk⟩ := exists_followGates (p := p) (Produces.gatesNamed h) (some entry.destinationNodeId) input.now
    have hresult : ∃ result, inboundDefault p artifact input blocked ds = some result ∧
        result.matched = true ∧ result.matchedRuleId = some entry.phoneNumberId ∧
        result.plan.entryNodeId = nodeId := by
      simp only [inboundDefault, hl, Lookup.isDefined_own, if_true, Lookup.field, hwalk,
        Option.bind_eq_bind, Option.bind_some]
      exact ⟨_, rfl, rfl, rfl, rfl⟩
    obtain ⟨result, hresult, hmatched, hid, rfl⟩ := hresult
    rw [hresult]
    exact .default hnone hmem hen hvoice he164 hl howner hmatched (howner ▸ hid) hwalk
  | undefined =>
    have hresult : ∃ result, inboundDefault p artifact input blocked ds = some result ∧
        result.matched = false ∧ result.plan.entryNodeId = some artifact.inbound.noMatchNodeId := by
      simp only [inboundDefault, hl, Lookup.isDefined_undefined, Bool.false_eq_true, if_false]
      exact ⟨_, rfl, rfl, rfl⟩
    obtain ⟨result, hresult, hmatched, hentry⟩ := hresult
    rw [hresult]
    refine .unallocated hnone (fun number hmem hen hvoice he164 => ?_) hmatched
      (hmirror.noMatch ▸ hentry)
    obtain ⟨hkey, hname⟩ := (Record.lookup_eq_undefined_iff hmirror.proto).mp hl
    have hdefault := (hmirror.numbers number hmem).resolve_left h.errorFree hen hvoice
    rw [he164] at hdefault
    exact hkey (hdefault (fun hproto => hname (by rw [hproto]; decide)))

theorem inboundWalk_answersLeast (blocked : Option BlockOutcome) (ds : List Diagnostic) :
    (∃ ds', (∀ route ∈ w.inboundRoutes, ¬CanAnswer p w artifact input route) ∧
      inboundWalk p artifact input blocked artifact.inbound.rules ds =
        inboundDefault p artifact input blocked ds') ∨
    ((∃ route ∈ w.inboundRoutes, CanAnswer p w artifact input route) ∧
      AnswersLeast p w artifact input
        (inboundWalk p artifact input blocked artifact.inbound.rules ds)) := by
  have htable : artifact.inbound = tables.inbound := by
    rw [h.artifact_eq]
    rfl
  have hmirror := h.compiled.mirror.inbound.rules.resolve_left h.errorFree
  have hordered := h.compiled.mirror.inbound.ordered
  rw [← htable] at hmirror hordered
  obtain hall | ⟨passed, rule, rest, hsplit, hpassed, hrule, hleast⟩ :=
    first_of_pairwise (PassesCall p artifact input) hordered
  · obtain ⟨ds', hwalk⟩ := inboundWalk_passed blocked hall [] ds
    rw [List.append_nil] at hwalk
    refine .inl ⟨ds', fun route hroute hcan => ?_, hwalk⟩
    obtain ⟨rule, hrule, ha⟩ := hmirror.image route hroute hcan.enabled
    exact (passesCall_iff h ha hcan.enabled).mp (hall rule hrule) hcan
  · have hmem : rule ∈ artifact.inbound.rules := by
      rw [hsplit]
      simp
    obtain ⟨route, hroute, hen, ha⟩ := hmirror.origin rule hmem
    have hcan : CanAnswer p w artifact input route :=
      Classical.not_not.mp (fun hno => hrule ((passesCall_iff h ha hen).mpr hno))
    obtain ⟨ds', hwalk⟩ := inboundWalk_passed blocked hpassed (rule :: rest) ds
    obtain ⟨result, hresult, hanswered⟩ := inboundWalk_answered h ha hmem hcan blocked rest ds'
    refine .inr ⟨⟨route, hroute, hcan⟩, ?_⟩
    rw [hsplit, hwalk, hresult]
    refine .answered hroute hcan (fun other hother hother' => ?_) hanswered
    obtain ⟨rule', hrule', ha'⟩ := hmirror.image other hother hother'.enabled
    exact answerRank_le ha ha' (hleast rule' hrule' (fun hpass =>
      (passesCall_iff h ha' hother'.enabled).mp hpass hother'))

end

theorem resolveInbound_eq_walk (hblock : unblocked p artifact input.callerNumber .inbound = true) :
    ∃ blocked ds, resolveInbound p artifact input =
      inboundWalk p artifact input blocked artifact.inbound.rules ds := by
  unfold resolveInbound
  cases hscreen : screeningRule p artifact input.callerNumber .inbound with
  | none => exact ⟨none, [], rfl⟩
  | some rule =>
    rw [unblocked, hscreen, Option.all_some, Option.isNone_iff_eq_none] at hblock
    simp only [hblock]
    exact ⟨_, _, rfl⟩

theorem not_answersLeast_of_inherited
    (hnone : ∀ route ∈ w.inboundRoutes, ¬CanAnswer p w artifact input route)
    (hdid : artifact.inbound.didDefaults.lookup input.did = .inherited)
    (blocked : Option BlockOutcome) (ds : List Diagnostic) :
    ¬AnswersLeast p w artifact input (inboundDefault p artifact input blocked ds) := by
  intro hleast
  generalize hresult : inboundDefault p artifact input blocked ds = result at hleast
  cases hleast with
  | answered hmem hcan hleast hanswered => exact hnone _ hmem hcan
  | default hnone hmem henabled hvoice he164 hentry =>
    rw [hdid] at hentry
    cases hentry
  | unallocated hnone hnumber hmatched hentry =>
    simp only [inboundDefault, hdid, Lookup.isDefined_inherited, if_true] at hresult
    obtain ⟨⟨nodeId, walked⟩, -, hresult⟩ := Option.bind_eq_some_iff.mp hresult
    rw [Option.pure_def, Option.some.injEq] at hresult
    rw [← hresult] at hmatched
    cases hmatched

end selection

def sampleInboundRoute (id digits : JsString) : InboundRouteInput where
  id := id
  enabled := true
  name := id
  priority := 10
  matchKind := .prefixed
  matchPattern := .val digits
  phoneNumberId := .absent
  callerIdPattern := .absent
  failover := ⟨.absent, .absent, .absent⟩
  timeConditionId := .absent
  recordEnabled := false
  destination := ⟨.extension, .val (lit "e1"), .absent⟩

def answeringOrg : OrgRoutingSnapshot :=
  { sampleOrg with
    phoneNumbers := [sampleNumber (lit "n1") (lit "+12025550100") .absent]
    inboundRoutes := [sampleInboundRoute (lit "i1") (lit "+1"),
      sampleInboundRoute (lit "i2") (lit "+1202")] }

end OptimiqVoice.Routing

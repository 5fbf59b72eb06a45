import OptimiqVoice.Routing.Compile.Construct
import OptimiqVoice.Routing.Compile.Outbound

namespace OptimiqVoice.Routing.Compile

open Lib Lib.Prog Telephony

variable {p : Platform} {w : OrgRoutingSnapshot} {r : Recur} {s t : CompilerState}

variable {subject : DiagnosticSubject}

section branches

/-- A branch was found, or it was reported that there is none. -/
def Found (o : Option PlanNodeId) (t : CompilerState) : Prop := HasError t ∨ o.isSome = true

variable {o : Option PlanNodeId}

theorem found_of_some {m : Compiler PlanNodeId}
    (h : (do let id ← m; pure (some id) : Compiler (Option PlanNodeId)) s = some (o, t)) :
    Found o t := by
  obtain ⟨id, u, -, h⟩ := bind_eq_some h
  change some (some id, u) = some (o, t) at h
  rw [Option.some.injEq, Prod.mk.injEq] at h
  exact .inr (by rw [← h.1]; rfl)

theorem found_of_error {code : DiagnosticCode} {message : JsString}
    {subject : Option DiagnosticSubject} {path : Option JsString}
    (h : (do reportError code message subject path; pure none : Compiler (Option PlanNodeId)) s =
      some (o, t)) : Found o t := by
  change some (none, { s with diagnostics := s.diagnostics ++ _ }) = some (o, t) at h
  rw [Option.some.injEq, Prod.mk.injEq] at h
  refine .inl ⟨⟨.error, code, message, subject, path⟩, ?_, rfl⟩
  rw [← h.2]
  simp

variable {path : JsString}

theorem targetNode_found {α : Type} {rows : Dict JsString α} {kind : JsString}
    {name : α → JsString} {enabled : α → Bool} {build : α → Compiler PlanNodeId} {ref : JsString}

    (h : targetNode rows kind name enabled build ref subject path s = some (o, t)) : Found o t := by
  unfold targetNode at h
  cases hrow : rows.get? ref with
  | none =>
    rw [hrow] at h
    exact found_of_error h
  | some row =>
    rw [hrow] at h
    simp only at h
    split at h
    · exact found_of_some h
    · exact found_of_some (m := hangupNode .serviceUnavailable) h

theorem hangupDestination_found {d : DestinationInput}

    (h : hangupDestination d subject path s = some (o, t)) : Found o t := by
  rw [hangupDestination] at h
  cases hcause : d.destinationData.toOption.bind (·.cause) with
  | none =>
    rw [hcause] at h
    exact found_of_some h
  | some text =>
    cases hc : HangupCause.ofText? text with
    | some cause =>
      simp only [hcause, hc] at h
      exact found_of_some h
    | none =>
      simp only [hcause, hc] at h
      exact found_of_error h

theorem destinationNode_found {d : DestinationInput}

    (h : destinationNode p (index w) r d subject path s = some (o, t)) : Found o t := by
  unfold destinationNode at h
  split at h
  · exact found_of_error h
  simp only at h
  split at h
  · exact found_of_error h
  obtain ⟨type, ref, data⟩ := d
  cases type with
  | external | application => exact found_of_some h
  | hangup | unknown _ => exact hangupDestination_found h
  | _ => exact targetNode_found h

theorem build_found (d : DestinationInput) (subject : DiagnosticSubject) (path : JsString) :
    Runs (Grows w) s ((build p (index w)).destinationNode d subject path)
      (fun o t => Found o t ∧ Points o t) :=
  ((build_ready s (Extends.refl _)).1 d subject path).result
    (fun _ _ h => destinationNode_found (r := recur p (index w) _) h)

theorem namedDestination_found (named : NamedDestination) (name : JsString)
    (subject : DiagnosticSubject) :
    Runs (Grows w) s (namedDestinationNode (build p (index w)) named name subject)
      (fun o t => (HasError t ∨ o.isSome = named.type.toOption.isSome) ∧ Points o t) := by
  unfold namedDestinationNode
  cases named.type.toOption with
  | none => exact .pure ⟨.inr rfl, points_none⟩
  | some type => exact build_found _ _ _

end branches

section gates

def activeCondition (w : OrgRoutingSnapshot) (timeConditionId : Nullable JsString) :
    Option TimeConditionInput :=
  (timeConditionId.toOption.filter (fun id => 0 < id.length)).bind (fun id =>
    ((index w).timeConditionInputsById.get? id).filter (·.enabled))

theorem mem_of_activeCondition {timeConditionId : Nullable JsString}
    {condition : TimeConditionInput} (h : activeCondition w timeConditionId = some condition) :
    condition ∈ w.timeConditions := by
  obtain ⟨id, -, h⟩ := Option.bind_eq_some_iff.mp h
  rw [Option.filter_eq_some_iff] at h
  exact mem_of_byId (Dict.mem_values_of_get? h.1)

def hasClosedBranch (condition : TimeConditionInput) (failover : NamedDestination) : Bool :=
  condition.noMatch.type.toOption.isSome || failover.type.toOption.isSome

/-- The gate of a rule is the condition that its route names. -/
def GateOf (w : OrgRoutingSnapshot) (timeConditionId : Nullable JsString)
    (failover : NamedDestination) (gate : Option RouteTimeGate) : Prop :=
  match activeCondition w timeConditionId with
  | none => gate = none
  | some condition => ∃ closed, gate = some ⟨condition.id, closed⟩ ∧
      closed.isSome = hasClosedBranch condition failover

theorem routeTimeGate_of {timeConditionId : Nullable JsString} {failover : NamedDestination}
    {node : Option PlanNodeId} (hf : HasError s ∨ node.isSome = failover.type.toOption.isSome) :
    Runs (Grows w) s (routeTimeGate (index w) (build p (index w)) timeConditionId node subject)
      (fun gate t => HasError t ∨ GateOf w timeConditionId failover gate) := by
  unfold routeTimeGate GateOf
  cases hid : timeConditionId.toOption.filter (fun id => 0 < id.length) with
  | none =>
    have hactive : activeCondition w timeConditionId = none := by simp [activeCondition, hid]
    rw [hactive]
    exact .pure (.inr rfl)
  | some id =>
    cases hget : (index w).timeConditionInputsById.get? id with
    | none =>
      simp only [hget]
      exact .bind (reportError_runs rfl) fun _ _ _ he => .pure (.inl he)
    | some condition =>
      simp only [hget]
      refine .ite (fun hdis => ?_) fun hen => ?_
      · have hactive : activeCondition w timeConditionId = none := by
          rw [activeCondition, hid, Option.bind_some, hget, Option.filter_some, if_neg (by simpa using hdis)]
        rw [hactive]
        exact (addDiagnostic_runs rfl).bind fun _ _ _ _ => .pure (.inr rfl)
      · have hactive : activeCondition w timeConditionId = some condition := by
          rw [activeCondition, hid, Option.bind_some, hget, Option.filter_some, if_pos (by simpa using hen)]
        rw [hactive]
        refine (namedDestination_found _ _ _).bind (fun noMatch t ht hn => .pure ?_)
        obtain hn | hn := hn.1
        · exact .inl hn
        obtain hf | hf := hf
        · exact .inl (hf.mono ht.diagnostics)
        refine .inr ⟨noMatch.or node, rfl, ?_⟩
        rw [Option.isSome_or, hn, hf, hasClosedBranch]

end gates

section patterns

/-- Nothing is wrong with the pattern, except that a regex may be unanchored. -/
def UsablePattern (p : Platform) (kind : RouteMatchKind) (raw : Option JsString) : Prop :=
  ∀ issue ∈ (compilePattern p kind raw).2, issue = .unanchoredRegex

theorem reportPatternIssues_usable (issues : List PatternIssue) (unanchored : JsString)
    (unusable : PatternIssue → JsString) (subject : DiagnosticSubject) (path : JsString) :
    Runs (Grows w) s (reportPatternIssues issues unanchored unusable subject path)
      (fun usable t => HasError t ∨
        (usable = true ∧ ∀ issue ∈ issues, issue = .unanchoredRegex)) := by
  refine (Runs.each_all (fun (issue : PatternIssue) t => HasError t ∨ issue = .unanchoredRegex)
    issues (fun _ _ _ h hp => hp.imp_left (fun he => he.mono h.diagnostics))
    (fun issue _ t _ => ?_)).bind (fun _ t _ hall => .pure ?_)
  · cases issue with
    | unanchoredRegex => exact (addDiagnostic_runs rfl).weaken (fun _ _ _ _ => .inr rfl)
    | _ => exact .weaken (reportError_runs rfl) fun _ _ _ he => .inl he
  · by_cases herror : HasError t
    · exact .inl herror
    have hissues : ∀ issue ∈ issues, issue = .unanchoredRegex :=
      fun issue hi => (hall issue hi).resolve_left herror
    exact .inr ⟨by simpa using hissues, hissues⟩

theorem routePattern_eq (kind : RouteMatchKind) (raw : Option JsString)
    (subject : DiagnosticSubject) (path : JsString) :
    Runs (Grows w) s (routePattern p kind raw subject path) (fun o t => HasError t ∨
        (o = some (compilePattern p kind raw).1 ∧ UsablePattern p kind raw)) := by
  refine (reportPatternIssues_usable _ _ _ _ _).bind fun usable t _ hu => .pure ?_
  exact hu.imp_right fun hu => ⟨by rw [if_pos hu.1], hu.2⟩

/-- The patterns a route dials by. Only a route for any number may list none. -/
def dialPatternsOf (p : Platform) (route : OutboundRouteInput) : List CompiledPattern :=
  if route.dialPatterns.isEmpty then [.any]
  else route.dialPatterns.map (fun raw => (compilePattern p route.matchKind (some raw)).1)

theorem routePatterns_eq (route : OutboundRouteInput) (subject : DiagnosticSubject) :
    Runs (Grows w) s (routePatterns p route subject)
      (fun o t => HasError t ∨ o = some (dialPatternsOf p route)) := by
  let missing := route.dialPatterns.isEmpty && route.matchKind ≠ .any
  have hmissing : Runs (Grows w) s (Prog.when missing (reportError .invalidPattern
      (lit "Outbound route " ++ quoted route.name ++ lit " has no dial patterns.")
      (some subject) (some (lit "dialPatterns")))) (fun _ t => HasError t ∨ missing = false) := by
    refine .ite (fun _ => .weaken (reportError_runs rfl) fun _ _ _ he => .inl he)
      (fun hno => .pure (.inr ?_))
    simpa using hno
  refine hmissing.bind fun _ t₁ _ hmissing => ?_
  refine (Runs.collect_eq_unless HasError
    (fun entry : JsString × Nat => some (compilePattern p route.matchKind (some entry.1)).1) _
    (fun _ _ h he => he.mono h.diagnostics) fun entry _ t _ =>
      (routePattern_eq _ _ _ _).weaken fun _ _ _ h => h.imp_right fun h => h.1).bind
    (fun patterns t₂ h₂ hpatterns => ?_)
  have hok : HasError t₂ ∨ (missing = false ∧ patterns = route.dialPatterns.map
      (fun raw => (compilePattern p route.matchKind (some raw)).1)) := by
    obtain he | hmissing := hmissing
    · exact .inl (he.mono h₂.diagnostics)
    refine hpatterns.imp_right fun hpatterns => ⟨hmissing, ?_⟩
    have hfst := congrArg (List.map fun raw => (compilePattern p route.matchKind (some raw)).1)
      (List.zipIdx_map_fst 0 route.dialPatterns)
    rw [hpatterns, congrFun List.filterMap_eq_map' _, ← hfst, List.map_map]
    rfl
  refine .ite (fun hnone => .pure ?_) (fun _ => .ite (fun hany => .pure ?_) fun hsome => .pure ?_)
  · refine hok.imp_right (fun h => ?_)
    obtain ⟨hmissing, rfl⟩ := h
    simp [missing] at hnone hmissing
    exact absurd (hmissing hnone.1) hnone.2
  · refine hok.imp_right (fun h => ?_)
    obtain ⟨-, rfl⟩ := h
    simp only [Bool.and_eq_true, List.isEmpty_map] at hany
    rw [dialPatternsOf, if_pos hany.2]
  · refine hok.imp_right (fun h => ?_)
    obtain ⟨hmissing, rfl⟩ := h
    rw [dialPatternsOf, if_neg]
    intro hempty
    simp [missing, hempty] at hmissing hsome
    exact hsome hmissing

theorem reportDigitManipulation_usable (route : OutboundRouteInput) (subject : DiagnosticSubject) :
    Runs (Grows w) s (reportDigitManipulation route subject)
      (fun usable t => HasError t ∨ usable = true) := by
  refine (Runs.each_all (fun (_ : DigitManipulationIssue) t => HasError t) _
    (fun _ _ _ h he => he.mono h.diagnostics) fun issue _ t _ => reportError_runs rfl).bind
    (fun _ t _ hall => .pure ?_)
  cases hissues : validateDigitManipulation ⟨route.stripDigits, route.prependDigits.toOption⟩ with
  | nil => exact .inr rfl
  | cons issue rest => exact .inl (hall issue (by simp [hissues]))

end patterns

/-- An outbound rule says what its route says. -/
structure DialsFor (p : Platform) (w : OrgRoutingSnapshot) (route : OutboundRouteInput)
    (rule : OutboundRule) : Prop where
  id : rule.id = route.id
  name : rule.name = route.name
  priority : rule.priority = route.priority
  patterns : rule.patterns = dialPatternsOf p route
  tollClass : rule.tollClass = route.tollClass
  stripDigits : rule.stripDigits = route.stripDigits
  prependDigits : rule.prependDigits = route.prependDigits.toOption
  gate : GateOf w route.timeConditionId route.failover rule.timeGate
  destination : rule.destinationNodeId = trunkDialId route.id

section inbound

def boundE164 (w : OrgRoutingSnapshot) (route : InboundRouteInput) : Option JsString :=
  (route.phoneNumberId.toOption.filter (fun id => 0 < id.length)).bind (fun id =>
    ((index w).phoneNumbersById.get? id).map (·.e164))

theorem boundNumber_eq (route : InboundRouteInput) (subject : DiagnosticSubject) :
    Runs (Grows w) s (boundNumber (index w) route subject)
      (fun o t => HasError t ∨ o = some (boundE164 w route)) := by
  unfold boundNumber boundE164
  cases route.phoneNumberId.toOption.filter (fun id => 0 < id.length) with
  | none => exact .pure (.inr rfl)
  | some id =>
    rw [Option.bind_some]
    cases hget : (index w).phoneNumbersById.get? id with
    | none =>
      simp only [hget]
      exact .bind (reportError_runs rfl) fun _ _ _ he => .pure (.inl he)
    | some did =>
      simp only [hget]
      exact .pure (.inr rfl)

def inboundPattern (p : Platform) (route : InboundRouteInput) : CompiledPattern :=
  (compilePattern p route.matchKind route.matchPattern.toOption).1

def callerScreen (p : Platform) (route : InboundRouteInput) : Option CompiledPattern :=
  (route.callerIdPattern.toOption.filter (fun raw => 0 < raw.length)).map (fun raw =>
    (compilePattern p (if route.matchKind = .any then .prefixed else route.matchKind) (some raw)).1)

theorem callerPatternOf_eq (route : InboundRouteInput) (subject : DiagnosticSubject) :
    Runs (Grows w) s (callerPatternOf p route subject)
      (fun o t => HasError t ∨ o = callerScreen p route) := by
  unfold callerPatternOf callerScreen
  cases route.callerIdPattern.toOption.filter (fun raw => 0 < raw.length) with
  | none => exact .pure (.inr rfl)
  | some raw =>
    exact (routePattern_eq _ _ _ _).weaken fun _ _ _ h => h.imp_right fun h => h.1

/-- An inbound rule says what its route says. -/
structure AnswersFor (p : Platform) (w : OrgRoutingSnapshot) (route : InboundRouteInput)
    (rule : InboundRule) : Prop where
  id : rule.id = route.id
  name : rule.name = route.name
  priority : rule.priority = route.priority
  e164 : rule.e164 = boundE164 w route
  pattern : rule.pattern = inboundPattern p route
  usable : UsablePattern p route.matchKind route.matchPattern.toOption
  callerPattern : rule.callerPattern = callerScreen p route
  gate : GateOf w route.timeConditionId route.failover rule.timeGate

end inbound

end OptimiqVoice.Routing.Compile

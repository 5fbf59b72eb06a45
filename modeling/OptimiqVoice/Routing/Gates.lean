import OptimiqVoice.Routing.Compile.Outcome

namespace OptimiqVoice.Routing

open Lib Compile

inductive GateState where
  | opened
  | closed (branch : Bool)
deriving DecidableEq

def routeGate (p : Platform) (w : OrgRoutingSnapshot) (artifact : RoutingArtifact)
    (timeConditionId : Nullable JsString) (failover : NamedDestination) (now : Int) : GateState :=
  match activeCondition w timeConditionId with
  | none => .opened
  | some condition => match artifact.timeConditions.lookup condition.id with
    | .own compiled =>
      if (evaluateTimeCondition p compiled now).matched then .opened
      else .closed (hasClosedBranch condition failover)
    | _ => .opened

def unblocked (p : Platform) (artifact : RoutingArtifact) (value : Option JsString)
    (direction : CallBlockDirection) : Bool :=
  (screeningRule p artifact value direction).all (fun rule =>
    (blockTerminalNodeId rule.action).isNone)

section gates

variable {p : Platform} {w : OrgRoutingSnapshot} {compiledAt : JsString}
variable {artifact : RoutingArtifact} {tables : Tables} {s : CompilerState}

theorem lookup_timeCondition (h : Produces p w compiledAt artifact tables s)
    {condition : TimeConditionInput} (hc : condition ∈ w.timeConditions) :
    ∃ compiled, artifact.timeConditions.lookup condition.id = .own compiled := by
  have hkey := (h.compiled.points.times condition hc).resolve_left h.errorFree
  obtain ⟨compiled, hget⟩ := (Dict.mem_keys_iff _ _).mp hkey
  refine ⟨compiled, ?_⟩
  rw [h.artifact_eq]
  exact (Record.lookup_ofDict _ _ _ _).mpr hget

theorem conditionOpen_of_own {id : JsString} {compiled : CompiledTimeCondition}
    (hl : artifact.timeConditions.lookup id = .own compiled) (now : Int) :
    ∃ reported, conditionOpen p artifact id now =
      some ((evaluateTimeCondition p compiled now).matched, reported) := by
  rw [conditionOpen, hl]
  exact ⟨_, rfl⟩

/-- The conditions that nodes and rules name are in the table. -/
structure GatesNamed (artifact : RoutingArtifact) : Prop where
  nodes : ∀ id node q, artifact.nodes.lookup id = .own ⟨node, .timeCondition q⟩ →
    ∃ compiled, artifact.timeConditions.lookup q.timeConditionId = .own compiled
  inbound : ∀ rule ∈ artifact.inbound.rules, ∀ gate ∈ rule.timeGate,
    ∃ compiled, artifact.timeConditions.lookup gate.timeConditionId = .own compiled
  outbound : ∀ rule ∈ artifact.outbound.rules, ∀ gate ∈ rule.timeGate,
    ∃ compiled, artifact.timeConditions.lookup gate.timeConditionId = .own compiled

theorem mem_of_gateOf {timeConditionId : Nullable JsString} {failover : NamedDestination}
    {gate : Option RouteTimeGate} (hg : GateOf w timeConditionId failover gate)
    {g : RouteTimeGate} (hm : g ∈ gate) :
    ∃ condition ∈ w.timeConditions, g.timeConditionId = condition.id := by
  rw [GateOf] at hg
  cases hactive : activeCondition w timeConditionId with
  | none =>
    simp only [hactive] at hg
    subst hg
    cases hm
  | some condition =>
    simp only [hactive] at hg
    obtain ⟨closed, rfl, -⟩ := hg
    cases hm
    exact ⟨condition, mem_of_activeCondition hactive, rfl⟩

theorem Produces.named (h : Produces p w compiledAt artifact tables s) {P : JsString → Prop}
    (hall : ∀ condition ∈ w.timeConditions, P condition.id) :
    (∀ id node q, artifact.nodes.lookup id = .own ⟨node, .timeCondition q⟩ → P q.timeConditionId) ∧
    (∀ rule ∈ artifact.inbound.rules, ∀ gate ∈ rule.timeGate, P gate.timeConditionId) ∧
    ∀ rule ∈ artifact.outbound.rules, ∀ gate ∈ rule.timeGate, P gate.timeConditionId := by
  refine ⟨fun id node q hn => ?_, fun rule hrule gate hg => ?_, fun rule hrule gate hg => ?_⟩
  · obtain ⟨condition, hc, hid⟩ := (h.placed hn).planned
    exact hid ▸ hall condition hc
  · rw [h.artifact_eq] at hrule
    obtain ⟨route, -, -, hroute⟩ :=
      (h.compiled.mirror.inbound.rules.resolve_left h.errorFree).origin rule hrule
    obtain ⟨condition, hc, hid⟩ := mem_of_gateOf hroute.gate hg
    exact hid ▸ hall condition hc
  · rw [h.artifact_eq] at hrule
    obtain ⟨route, -, -, hroute⟩ :=
      (h.compiled.mirror.outbound.rules.resolve_left h.errorFree).origin rule hrule
    obtain ⟨condition, hc, hid⟩ := mem_of_gateOf hroute.gate hg
    exact hid ▸ hall condition hc

theorem Produces.gatesNamed (h : Produces p w compiledAt artifact tables s) :
    GatesNamed artifact := by
  have hnamed := Produces.named h
    (P := fun id => ∃ compiled, artifact.timeConditions.lookup id = .own compiled)
    (fun _ hc => lookup_timeCondition h hc)
  exact ⟨hnamed.1, hnamed.2.1, hnamed.2.2⟩

theorem followGatesFrom_keeps {P : Option PlanNodeId → Prop} {now : Int} {depth : Nat}
    {id id' : Option PlanNodeId} {ds ds' : List Diagnostic}
    (hcleared : P (some (lit "hangup:NORMAL_CLEARING")))
    (hstep : ∀ {id node q next}, nodeAt artifact id = .own ⟨node, .timeCondition q⟩ → P id →
      next ∈ planNodeReferences ⟨node, .timeCondition q⟩ → P (some next))
    (hf : followGatesFrom p artifact now depth id ds = some (id', ds')) (hid : P id) : P id' := by
  induction depth generalizing id ds with
  | zero =>
    cases hf
    exact hid
  | succ depth ih =>
    rw [followGatesFrom] at hf
    split at hf
    · next nodeId q hn =>
      obtain ⟨⟨isOpen, diagnostic⟩, -, hf⟩ := Option.bind_eq_some_iff.mp hf
      simp only at hf
      split at hf
      · cases hf
        exact hcleared
      · next next hnext =>
        refine ih hf (hstep hn hid ?_)
        cases isOpen with
        | true =>
          rw [if_pos rfl, Option.some.injEq] at hnext
          simp [planNodeReferences, hnext]
        | false =>
          rw [if_neg (by decide)] at hnext
          simp [planNodeReferences, hnext]
    · cases hf
      exact hid

/-- The branch that a time-condition node selects at an instant. No node of
another kind has one; a gate that is closed may lack it. -/
def gateBranch (p : Platform) (artifact : RoutingArtifact) (now : Int) (id : Option PlanNodeId) :
    Option (Option PlanNodeId) :=
  match nodeAt artifact id with
  | .own ⟨_, .timeCondition q⟩ =>
    match artifact.timeConditions.lookup q.timeConditionId with
    | .own condition => if (evaluateTimeCondition p condition now).matched then
        some (some q.matchNodeId) else some q.noMatchNodeId
    | _ => some (some q.matchNodeId)
  | _ => none

section branches

variable {branch : Option PlanNodeId → Option (Option PlanNodeId)} {gates : Nat}
variable {id : Option PlanNodeId} {next : PlanNodeId}

/-- Where the branches lead, over at most so many gates. -/
def crossed (branch : Option PlanNodeId → Option (Option PlanNodeId)) :
    Nat → Option PlanNodeId → Option PlanNodeId
  | 0, id => id
  | gates + 1, id =>
    match branch id with
    | none => id
    | some none => some (lit "hangup:NORMAL_CLEARING")
    | some (some next) => crossed branch gates (some next)

/-- The first so many nodes are gates, each with the branch that is taken. -/
def AllGates (branch : Option PlanNodeId → Option (Option PlanNodeId)) (gates : Nat)
    (id : Option PlanNodeId) : Prop :=
  ∀ n < gates, ∃ next, branch (crossed branch n id) = some (some next)

def EndsAtGate (branch : Option PlanNodeId → Option (Option PlanNodeId)) (gates : Nat)
    (id : Option PlanNodeId) : Prop :=
  (branch (crossed branch gates id)).isSome = true

theorem allGates_succ (hb : branch id = some (some next)) :
    AllGates branch (gates + 1) id ↔ AllGates branch gates (some next) := by
  constructor
  · intro h n hn
    simpa [crossed, hb] using h (n + 1) (by omega)
  · intro h n hn
    cases n with
    | zero => exact ⟨next, hb⟩
    | succ n => simpa [crossed, hb] using h n (by omega)

/-- A walk ends at a gate only when it is longer than the limit. -/
theorem EndsAtGate.allGates (hclear : branch (some (lit "hangup:NORMAL_CLEARING")) = none)
    (h : EndsAtGate branch gates id) : AllGates branch gates id := by
  induction gates generalizing id with
  | zero => exact fun n hn => absurd hn (by omega)
  | succ gates ih =>
    rw [EndsAtGate, crossed] at h
    split at h
    · next hb => simp [hb] at h
    · simp [hclear] at h
    · next hb => exact (allGates_succ hb).mpr (ih h)

end branches

theorem evaluationDiagnostic_code (condition : CompiledTimeCondition)
    (evaluation : TimeConditionEvaluation) :
    (evaluationDiagnostic condition evaluation).code ≠ .planDepthExceeded := by
  simp only [evaluationDiagnostic]
  split <;> simp

/-- Following the time conditions never throws. It ends where the branches lead,
and reports a loop after so many of them. -/
theorem followGatesFrom_eq (h : GatesNamed artifact) (now : Int) (gates : Nat)
    (id : Option PlanNodeId) (ds : List Diagnostic) :
    ∃ walked, followGatesFrom p artifact now gates id ds =
        some (crossed (gateBranch p artifact now) gates id, ds ++ walked) ∧
      ((∃ d ∈ walked, d.code = .planDepthExceeded) ↔ AllGates (gateBranch p artifact now) gates id) := by
  induction gates generalizing id ds with
  | zero => exact ⟨_, rfl, by simp [AllGates]⟩
  | succ gates ih =>
    have hnone : ∀ {b}, gateBranch p artifact now id = b → (∀ next, b ≠ some (some next)) →
        ¬AllGates (gateBranch p artifact now) (gates + 1) id := by
      intro b hb hne hall
      obtain ⟨next, hnext⟩ := hall 0 (by omega)
      exact hne next (hb.symm.trans hnext)
    rw [followGatesFrom]
    split
    · next nodeId q hn =>
      obtain ⟨compiled, hl⟩ := h.nodes _ _ _ hn
      have hb : gateBranch p artifact now id =
          some (if (evaluateTimeCondition p compiled now).matched then some q.matchNodeId
            else q.noMatchNodeId) := by
        simp only [gateBranch, hn, hl]
        split <;> rfl
      simp only [conditionOpen, hl, Option.bind_eq_bind, Option.bind_some]
      split
      · next hbranch =>
        rw [hbranch] at hb
        refine ⟨[_], by rw [crossed, hb], ?_⟩
        simp [hnone hb (by simp), evaluationDiagnostic_code]
      · next next hbranch =>
        rw [hbranch] at hb
        obtain ⟨walked, hw, hcode⟩ := ih (some next) (ds ++ [_])
        refine ⟨_ :: walked, by rw [crossed, hb, hw, List.append_assoc]; rfl, ?_⟩
        simp [allGates_succ hb, ← hcode, evaluationDiagnostic_code]
    · next hn =>
      have hb : gateBranch p artifact now id = none := by
        unfold gateBranch
        split
        · next hn' => exact absurd hn' (hn _ _)
        · rfl
      refine ⟨[], by rw [crossed, hb, List.append_nil], ?_⟩
      simp [hnone hb (by simp)]

theorem exists_followGates (h : GatesNamed artifact) (id : Option PlanNodeId) (now : Int) :
    ∃ nodeId walked, followGates p artifact id now = some (nodeId, walked) :=
  let ⟨walked, hw, _⟩ := followGatesFrom_eq h now maxGateDepth id []
  ⟨_, walked, hw⟩

/-- How the gate of a rule answers when the condition of its route is in a state. -/
def Answers (p : Platform) (artifact : RoutingArtifact) (gate : Option RouteTimeGate) (now : Int) :
    GateState → Prop
  | .opened => ∃ reported, gateOutcome p artifact gate now = some (.isOpen, reported)
  | .closed false => ∃ reported, gateOutcome p artifact gate now = some (.isClosed none, reported)
  | .closed true => ∃ g ∈ gate, ∃ node reported, g.closedNodeId = some node ∧
      gateOutcome p artifact gate now = some (.isClosed (some node), reported)

theorem gateOf_answers (h : Produces p w compiledAt artifact tables s)
    {timeConditionId : Nullable JsString} {failover : NamedDestination}
    {gate : Option RouteTimeGate} (hg : GateOf w timeConditionId failover gate) (now : Int) :
    Answers p artifact gate now (routeGate p w artifact timeConditionId failover now) := by
  unfold GateOf at hg
  unfold routeGate
  cases hactive : activeCondition w timeConditionId with
  | none =>
    rw [hactive] at hg
    subst hg
    exact ⟨[], rfl⟩
  | some condition =>
    simp only [hactive] at hg
    obtain ⟨closed, rfl, hclosed⟩ := hg
    obtain ⟨compiled, hl⟩ := lookup_timeCondition h (mem_of_activeCondition hactive)
    obtain ⟨reported, ho⟩ := conditionOpen_of_own (p := p) hl now
    simp only [hl]
    cases hmatched : (evaluateTimeCondition p compiled now).matched with
    | true =>
      refine ⟨[reported], ?_⟩
      rw [gateOutcome, ho, hmatched]
      rfl
    | false =>
      have houtcome : gateOutcome p artifact (some ⟨condition.id, closed⟩) now =
          some (.isClosed closed, [reported]) := by
        rw [gateOutcome, ho, hmatched]
        rfl
      rw [if_neg Bool.false_ne_true, ← hclosed]
      cases closed with
      | none => exact ⟨[reported], houtcome⟩
      | some node => exact ⟨_, rfl, node, [reported], rfl, houtcome⟩

/-- What following the gates from a node is for: it ends where the branches
lead, at a gate only when there are too many, and says so exactly then. -/
def WalksGates (p : Platform) (artifact : RoutingArtifact) (entry : PlanNodeId) (now : Int) :
    Prop :=
  let branch := gateBranch p artifact now
  ∃ walked, followGates p artifact (some entry) now =
      some (crossed branch maxGateDepth (some entry), walked) ∧
    (EndsAtGate branch maxGateDepth (some entry) → AllGates branch maxGateDepth (some entry)) ∧
    ((∃ d ∈ walked, d.code = .planDepthExceeded) ↔ EndsAtGate branch maxGateDepth (some entry))

end gates

/-- In every compiled artifact, unless the last gate that may be crossed is also
the last gate there is. -/
theorem walksGates_iff (p : Platform) (w : OrgRoutingSnapshot) (compiledAt : JsString)
    (artifact : RoutingArtifact) (diagnostics : List Diagnostic)
    (hrun : run p w compiledAt = some (.ok artifact diagnostics)) (entry : PlanNodeId)
    (now : Int) : WalksGates p artifact entry now ↔
      (AllGates (gateBranch p artifact now) maxGateDepth (some entry) →
        EndsAtGate (gateBranch p artifact now) maxGateDepth (some entry)) := by
  obtain ⟨tables, s, h⟩ := run_ok hrun
  obtain ⟨walked, hw, hcode⟩ :=
    followGatesFrom_eq (p := p) (Produces.gatesNamed h) now maxGateDepth (some entry) []
  have hclear : gateBranch p artifact now (some (lit "hangup:NORMAL_CLEARING")) = none := by
    unfold gateBranch
    split
    · next hn => exact absurd (h.placed hn).tag_eq (by simp only [PlanBody.kind]; decide)
    · rfl
  constructor
  · rintro ⟨walked', hw', -, hexact⟩ hall
    rw [followGates, hw] at hw'
    cases hw'
    exact hexact.mp (hcode.mpr hall)
  · intro hends
    exact ⟨walked, hw, (·.allGates hclear), hcode.trans ⟨hends, (·.allGates hclear)⟩⟩

def gatedOrg (gates : Nat) : OrgRoutingSnapshot :=
  let desk : DestinationInput := ⟨.extension, .val (lit "e1"), .absent⟩
  { sampleOrg with
    phoneNumbers := [{ sampleNumber (lit "n1") (lit "+12025550100") .absent with
      destination := ⟨.timeCondition, .val (natText 0), .absent⟩ }]
    timeConditions := (List.range gates).map fun i =>
      ⟨natText i, true, natText i, lit "UTC", desk,
        if i + 1 < gates then ⟨.val .timeCondition, .val (natText (i + 1)), .absent⟩
        else ⟨.val .extension, .val (lit "e1"), .absent⟩⟩ }

theorem walksGates_oneGate : ∃ artifact diagnostics,
    run samplePlatform (gatedOrg 1) (lit "now") = some (.ok artifact diagnostics) ∧
      WalksGates samplePlatform artifact (lit "time-condition:0") 0 := by
  obtain ⟨artifact, diagnostics, hrun, hstop⟩ := exists_of_okWith
    (fun artifact => let branch := gateBranch samplePlatform artifact 0
      branch (crossed branch 1 (some (lit "time-condition:0"))) = none)
    (run samplePlatform (gatedOrg 1) (lit "now")) (by decide)
  refine ⟨artifact, diagnostics, hrun, (walksGates_iff _ _ _ _ _ hrun _ _).mpr fun hall => ?_⟩
  obtain ⟨next, hnext⟩ := hall 1 (by decide)
  rw [of_decide_eq_true hstop] at hnext
  cases hnext

/-- The last gate leads to a telephone, and the walk is still reported as a loop. -/
theorem sixteenGates_reported : ∃ artifact diagnostics,
    run samplePlatform (gatedOrg maxGateDepth) (lit "now") = some (.ok artifact diagnostics) ∧
      ¬WalksGates samplePlatform artifact (lit "time-condition:0") 0 := by
  obtain ⟨artifact, diagnostics, hrun, hcheck⟩ := exists_of_okWith
    (fun artifact => let branch := gateBranch samplePlatform artifact 0
      branch (crossed branch maxGateDepth (some (lit "time-condition:0"))) = none ∧
      (followGates samplePlatform artifact (some (lit "time-condition:0")) 0).any
        fun walk => walk.2.any (·.code = .planDepthExceeded))
    (run samplePlatform (gatedOrg maxGateDepth) (lit "now")) (by decide +kernel)
  obtain ⟨hstop, hsays⟩ := of_decide_eq_true hcheck
  refine ⟨artifact, diagnostics, hrun, ?_⟩
  rintro ⟨walked, hw, -, hexact⟩
  rw [hw, Option.any_some, List.any_eq_true] at hsays
  obtain ⟨d, hd, hcode⟩ := hsays
  have hgate := hexact.mp ⟨d, hd, of_decide_eq_true hcode⟩
  rw [EndsAtGate, hstop] at hgate
  cases hgate

end OptimiqVoice.Routing

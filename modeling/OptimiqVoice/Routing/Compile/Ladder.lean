import OptimiqVoice.Routing.Compile.Passes

namespace OptimiqVoice.Routing.Compile

open Lib Lib.Prog

variable {p : Platform} {w : OrgRoutingSnapshot} {outbound : OutboundMatchTable}
variable {callBlock : List CompiledCallBlockRule} {s t : CompilerState}

/-- The target of a hop that leaves the organization, read off the tables. -/
def hopTarget (p : Platform) (outbound : OutboundMatchTable)
    (callBlock : List CompiledCallBlockRule) (tollClass : TollClass) (dialString : JsString) :
    Option (PlanNodeId × JsString) :=
  if !outbound.enabled then none
  else if ((checkCallBlock p callBlock (some dialString) .outbound).filter
      (fun rule => rule.action ≠ .allow)).isSome then none
  else (followMeRule p tollClass dialString false outbound.rules).2

def hopAim (p : Platform) (w : OrgRoutingSnapshot) (outbound : OutboundMatchTable)
    (callBlock : List CompiledCallBlockRule) (tollClass : TollClass) (dialString : JsString) :
    Option PlanNodeId × Option JsString :=
  match (index w).extensionsByNumber.get? dialString with
  | some internal => (some (extensionId internal), none)
  | none =>
    let target := hopTarget p outbound callBlock tollClass dialString
    (target.map (·.1), target.map (·.2))

def hopOf (p : Platform) (w : OrgRoutingSnapshot) (outbound : OutboundMatchTable)
    (callBlock : List CompiledCallBlockRule) (extension : ExtensionInput)
    (entry : FollowMeTargetInput × Nat) : Option FollowMeDestination :=
  let dialString := trim (entry.1.destination.toOption.getD [])
  if dialString.length = 0 then none
  else some
    { ordinal := entry.2
      destination := dialString
      delaySeconds := wholeSeconds entry.1.delaySeconds
      timeoutSeconds := wholeSeconds entry.1.timeoutSeconds
      confirmRequired := entry.1.confirm = some true
      targetNodeId := (hopAim p w outbound callBlock extension.tollClass dialString).1
      dialedNumber := (hopAim p w outbound callBlock extension.tollClass dialString).2 }

def hopsOf (p : Platform) (w : OrgRoutingSnapshot) (outbound : OutboundMatchTable)
    (callBlock : List CompiledCallBlockRule) (extension : ExtensionInput)
    (config : FollowMeInput) : List FollowMeDestination :=
  (config.targets.toOption.getD []).zipIdx.filterMap (hopOf p w outbound callBlock extension)

/-- The ladder an extension ends up with: none unless some hop can be dialled. -/
def ladderOf (p : Platform) (w : OrgRoutingSnapshot) (outbound : OutboundMatchTable)
    (callBlock : List CompiledCallBlockRule) (extension : ExtensionInput) : Option FollowMePlan :=
  match followMeOf extension with
  | none => none
  | some config =>
    if (hopsOf p w outbound callBlock extension config).any (fun hop => hop.targetNodeId.isSome)
    then some (followMePlan config (hopsOf p w outbound callBlock extension config))
    else none

theorem ladderOf_eq_none {extension : ExtensionInput} (h : followMeOf extension = none) :
    ladderOf p w outbound callBlock extension = none := by
  rw [ladderOf, h]

theorem ladderOf_eq {extension : ExtensionInput} {config : FollowMeInput}
    (h : followMeOf extension = some config) : ladderOf p w outbound callBlock extension =
      if (hopsOf p w outbound callBlock extension config).any (fun hop => hop.targetNodeId.isSome)
      then some (followMePlan config (hopsOf p w outbound callBlock extension config))
      else none := by
  rw [ladderOf, h]

def withLadder (plan : ExtensionPlan) (ladder : Option FollowMePlan) : ExtensionPlan :=
  { plan with followMe := ladder }

variable {plan : ExtensionPlan}

theorem withLadder_none (h : plan.followMe = none) : withLadder plan none = plan := by
  rw [withLadder, ← h]

variable {id : PlanNodeId}

theorem followMeRule_spec {tollClass : TollClass} {d : JsString} {rules : List OutboundRule}
    {denied : Bool} {number : JsString}
    (h : (followMeRule p tollClass d denied rules).2 = some (id, number)) :
    ∃ rule ∈ rules, rule.destinationNodeId = id ∧
      tollClassCovers tollClass rule.tollClass = true := by
  induction rules generalizing denied with
  | nil => cases h
  | cons rule rest ih =>
    have skip : ∀ {b : Bool}, (followMeRule p tollClass d b rest).2 = some (id, number) →
        ∃ rule' ∈ rule :: rest, rule'.destinationNodeId = id ∧
          tollClassCovers tollClass rule'.tollClass = true := by
      intro b hb
      obtain ⟨rule', hm, hr⟩ := ih hb
      exact ⟨rule', .tail _ hm, hr⟩
    rw [followMeRule] at h
    by_cases hm : rule.patterns.any (fun pattern => (matchPattern p pattern d).isSome) = true
    · rw [if_neg (by rw [hm]; decide)] at h
      by_cases hc : tollClassCovers tollClass rule.tollClass = true
      · rw [if_neg (by rw [hc]; decide)] at h
        cases hd : applyDigitManipulation ⟨rule.stripDigits, rule.prependDigits⟩ d with
        | none => exact skip (by simpa only [hd] using h)
        | some n =>
          simp only [hd, Option.some.injEq, Prod.mk.injEq] at h
          exact ⟨rule, .head _, h.1, hc⟩
      · rw [if_pos (by simpa using hc)] at h
        exact skip h
    · rw [if_pos (by simpa using hm)] at h
      exact skip h

/-- A hop may point at a trunk dial when outbound calling is on and the
extension holds the toll class of the rule that leads there. -/
def HopAllowed (w : OrgRoutingSnapshot) (outbound : OutboundMatchTable) (id target : PlanNodeId) :
    Prop :=
  outbound.enabled = true ∧ ∃ rule ∈ outbound.rules, rule.destinationNodeId = target ∧
    ∃ e ∈ w.extensions, id = extensionId e ∧ tollClassCovers e.tollClass rule.tollClass = true

/-- Where a hop of the extension node `id` points. -/
def HopPlaced (w : OrgRoutingSnapshot) (outbound : OutboundMatchTable) (s : CompilerState)
    (id : PlanNodeId) (hop : FollowMeDestination) : Prop :=
  ∀ target, hop.targetNodeId = some target →
    target ∈ s.claimed ∧ (tag target = trunkDialTag → HopAllowed w outbound id target)

variable {e : ExtensionInput}

theorem hopTarget_allowed (he : e ∈ w.extensions) {d : JsString}
    {target : PlanNodeId × JsString}
    (h : hopTarget p outbound callBlock e.tollClass d = some target) :
    HopAllowed w outbound (extensionId e) target.1 := by
  unfold hopTarget at h
  split at h
  · cases h
  · next henabled =>
    split at h
    · cases h
    · obtain ⟨rule, hm, hid, hc⟩ := followMeRule_spec h
      exact ⟨by simpa using henabled, rule, hm, hid, e, he, rfl, hc⟩

theorem followMeTrunkTarget_runs (e : ExtensionInput) (d : JsString) (subject : DiagnosticSubject)
    (path : JsString) : Runs (Grows w) s (followMeTrunkTarget p e d outbound callBlock subject path)
      (fun o _ => o = hopTarget p outbound callBlock e.tollClass d) := by
  unfold followMeTrunkTarget hopTarget
  by_cases hen : (!outbound.enabled) = true
  · rw [if_pos hen, if_pos hen]
    exact (addDiagnostic_runs rfl).bind fun _ _ _ _ => .pure rfl
  rw [if_neg hen, if_neg hen]
  cases (checkCallBlock p callBlock (some d) .outbound).filter (fun rule => rule.action ≠ .allow)
    with
  | some blocked => exact (addDiagnostic_runs rfl).bind fun _ _ _ _ => .pure rfl
  | none =>
    obtain ⟨denied, target⟩ := followMeRule p e.tollClass d false outbound.rules
    cases target with
    | some target => exact .pure rfl
    | none => cases denied <;> exact (addDiagnostic_runs rfl).bind fun _ _ _ _ => .pure rfl

theorem followMeDestination_runs (he : e ∈ w.extensions)
    (hrules : ∀ rule ∈ outbound.rules, rule.destinationNodeId ∈ s.claimed)
    (subject : DiagnosticSubject) (entry : FollowMeTargetInput × Nat) :
    Runs (Grows w) s (followMeDestination p (index w) (build p (index w)) e outbound callBlock
        subject entry) (fun o t => o = hopOf p w outbound callBlock e entry ∧
        ∀ hop ∈ o, HopPlaced w outbound t (extensionId e) hop) := by
  unfold followMeDestination hopOf
  by_cases hd : (trim (entry.1.destination.toOption.getD [])).length = 0
  · rw [if_pos hd, if_pos hd]
    exact (addDiagnostic_runs rfl).bind fun _ _ _ _ => .pure ⟨rfl, by simp⟩
  rw [if_neg hd, if_neg hd]
  unfold hopAim
  cases hi : (index w).extensionsByNumber.get? (trim (entry.1.destination.toOption.getD [])) with
  | some internal =>
    have hm := (enabled_of_byNumber (Dict.mem_values_of_get? hi)).1
    refine (claims (extensionNode_runs hm (readyAt_build _))).bind fun id t _ hid => .pure ⟨?_, ?_⟩
    · rw [hid.1]
    · intro hop hhop target htarget
      cases hhop
      cases htarget
      exact ⟨hid.2.1, fun h => absurd h hid.2.2⟩
  | none =>
    refine (followMeTrunkTarget_runs (w := w) e _ _ _).bind fun o t ht ho => ?_
    subst ho
    cases htarget : hopTarget p outbound callBlock e.tollClass
        (trim (entry.1.destination.toOption.getD [])) with
    | none =>
      refine .pure ⟨rfl, ?_⟩
      intro hop hhop target h
      cases hhop
      cases h
    | some aim =>
      refine .pure ⟨rfl, ?_⟩
      intro hop hhop target h
      cases hhop
      cases h
      have hallowed := hopTarget_allowed he htarget
      obtain ⟨-, rule, hrule, hid, -⟩ := hallowed
      exact ⟨ht.claimed (hid ▸ hrules rule hrule), fun _ => hopTarget_allowed he htarget⟩

/-- What holds of every node of the finished table. -/
structure Placed (w : OrgRoutingSnapshot) (outbound : OutboundMatchTable) (s : CompilerState)
    (id : PlanNodeId) (node : PlanNode) : Prop where
  id_eq : node.id = id
  tag_eq : tag id = node.body.kind
  planned : Planned w id node.body
  branches : ∀ r ∈ branches node.body, Target r s
  hops : ∀ hop ∈ hops node.body, HopPlaced w outbound s id hop
  plays : Plays w id node.body s

theorem Placed.mono {node : PlanNode} (h : Placed w outbound s id node)
    (hc : s.claimed ⊆ t.claimed) (hd : Reported w s.diagnostics t.diagnostics) :
    Placed w outbound t id node where
  __ := h
  branches := fun r hr => ⟨hc (h.branches r hr).1, (h.branches r hr).2⟩
  hops := fun hop hhop target ht =>
    ⟨hc (h.hops hop hhop target ht).1, (h.hops hop hhop target ht).2⟩
  plays := h.plays.mono hd

/-- Between two passes the table is closed: the claimed ids are its keys. -/
structure Sound (w : OrgRoutingSnapshot) (outbound : OutboundMatchTable) (s : CompilerState) :
    Prop where
  closed : ∀ id ∈ s.claimed, id ∈ s.nodes.keys
  tidy : Tidy s
  placed : ∀ id node, s.nodes.get? id = some node → Placed w outbound s id node

theorem initial_sound : Sound w outbound CompilerState.initial where
  closed := fun _ h => by cases h
  tidy := initial_tidy
  placed := fun _ _ h => by cases h

theorem Sound.plans (hs : Sound w outbound s) (h : Plans w s t) : Sound w outbound t where
  closed := by
    intro id hid
    obtain hc | hk := h.closed id hid
    · exact h.mem_keys hc (hs.closed id hc)
    · exact hk
  tidy := h.tidy hs.tidy
  placed := by
    intro id node hn
    by_cases hc : id ∈ s.claimed
    · rw [h.kept id hc] at hn
      exact (hs.placed id node hn).mono h.claimed h.diagnostics
    · obtain hold | ⟨-, hid, hb, hf⟩ := h.fresh id hc node hn
      · exact (hs.placed id node hold).mono h.claimed h.diagnostics
      · exact ⟨hid, hf.tag_eq, hb, hf.branches,
          fun hop hhop => by simp [hops, hf.ladder] at hhop, hf.plays⟩

theorem Sound.addLadder (hs : Sound w outbound s)
    (hn : s.nodes.get? id = some ⟨id, .extension plan⟩) {ladder : FollowMePlan}
    (hl : ∀ hop ∈ ladder.destinations, HopPlaced w outbound s id hop) :
    Sound w outbound (s.storing id (.extension (withLadder plan (some ladder)))) where
  closed := by
    intro x hx
    rw [s.mem_keys_storing]
    exact .inr (hs.closed x hx)
  tidy := by
    intro x hx
    obtain rfl | hk := (s.mem_keys_storing _ _ _).mp hx
    · exact hs.tidy x ((Dict.mem_keys_iff _ _).mpr ⟨_, hn⟩)
    · exact hs.tidy x hk
  placed := by
    intro x node hx
    by_cases he : id = x
    · subst he
      rw [s.get?_storing_self, Option.some.injEq] at hx
      subst hx
      have hold := hs.placed id _ hn
      exact ⟨rfl, hold.tag_eq, hold.planned, hold.branches, hl, hold.plays⟩
    · rw [s.get?_storing_of_ne _ he] at hx
      exact (hs.placed x node hx).mono (.refl _) (Reported.refl _)

/-- A follow-me step: the table stays sound, and of the nodes that were there
only those with the given ids may change. -/
structure Rewrites (w : OrgRoutingSnapshot) (outbound : OutboundMatchTable)
    (ids : List PlanNodeId) (s t : CompilerState) : Prop where
  sound : Sound w outbound t
  diagnostics : Reported w s.diagnostics t.diagnostics
  claimed : s.claimed ⊆ t.claimed
  others : ∀ id ∈ s.claimed, id ∉ ids → t.nodes.get? id = s.nodes.get? id
  times : s.timeConditionsById.keys ⊆ t.timeConditionsById.keys

/-- The steps of the pass start from sound tables. -/
def Rewriting (w : OrgRoutingSnapshot) (outbound : OutboundMatchTable) (ids : List PlanNodeId)
    (s t : CompilerState) : Prop :=
  Sound w outbound s → Rewrites w outbound ids s t

instance {ids : List PlanNodeId} : IsPreorder CompilerState (Rewriting w outbound ids) where
  refl := fun _ hs => ⟨hs, Reported.refl _, .refl _, fun _ _ _ => rfl,
    .refl _⟩
  trans := by
    intro s t u h k hs
    have hst := h hs
    have htu := k hst.sound
    exact ⟨htu.sound, hst.diagnostics.trans htu.diagnostics,
      List.Subset.trans hst.claimed htu.claimed, fun id hid hne =>
      (htu.others id (hst.claimed hid) hne).trans (hst.others id hid hne),
      List.Subset.trans hst.times htu.times⟩

theorem Rewrites.mono {ids ids' : List PlanNodeId} (h : Rewrites w outbound ids s t)
    (hsub : ids ⊆ ids') : Rewrites w outbound ids' s t :=
  ⟨h.sound, h.diagnostics, h.claimed, fun id hid hne => h.others id hid fun hm => hne (hsub hm),
    h.times⟩

theorem Grows.rewriting {ids : List PlanNodeId} (h : Grows w s t) : Rewriting w outbound ids s t :=
  fun hs => ⟨hs.plans h.plans, h.diagnostics, h.claimed, fun id hid _ => h.kept id hid, h.times⟩

theorem extensionPlanAt_eq_some {nodes : Dict PlanNodeId PlanNode} {nodeId : PlanNodeId}
    (h : extensionPlanAt nodes id = some (nodeId, plan)) :
    nodes.get? id = some ⟨nodeId, .extension plan⟩ := by
  unfold extensionPlanAt at h
  split at h
  · next heq =>
    simp only [Option.some.injEq, Prod.mk.injEq] at h
    rw [heq, h.1, h.2]
  · cases h

theorem HopPlaced.mono {hop : FollowMeDestination}
    (h : HopPlaced w outbound s id hop) (hc : s.claimed ⊆ t.claimed) :
    HopPlaced w outbound t id hop :=
  fun target ht => ⟨hc (h target ht).1, (h target ht).2⟩

theorem collectHops_runs (p : Platform) (callBlock : List CompiledCallBlockRule)
    (he : e ∈ w.extensions) (hrules : ∀ rule ∈ outbound.rules, rule.destinationNodeId ∈ s.claimed)
    (subject : DiagnosticSubject) (config : FollowMeInput) :
    Runs (Grows w) s (collect (followMeDestination p (index w) (build p (index w)) e outbound
        callBlock subject) (config.targets.toOption.getD []).zipIdx)
      (fun hops t => hops = hopsOf p w outbound callBlock e config ∧
        ∀ hop ∈ hops, HopPlaced w outbound t (extensionId e) hop) := by
  have hstep : ∀ entry ∈ (config.targets.toOption.getD []).zipIdx, ∀ t, Grows w s t → Runs (Grows w) t
      (followMeDestination p (index w) (build p (index w)) e outbound callBlock subject entry)
      (fun o u => o = hopOf p w outbound callBlock e entry ∧
        ∀ hop ∈ o, HopPlaced w outbound u (extensionId e) hop) :=
    fun entry _ t ht =>
      followMeDestination_runs he (fun rule hr => ht.claimed (hrules rule hr)) subject entry
  refine (Runs.collect_eq _ _ fun entry hm t ht => ?_).and
    (Runs.collect _ _ (fun hop t u h hp => HopPlaced.mono hp h.claimed) (fun entry hm t ht => ?_))
  · exact (hstep entry hm t ht).weaken fun _ _ _ h => h.1
  · exact (hstep entry hm t ht).weaken fun _ _ _ h => h.2

/-- The node of the extension carries its ladder, once the pass has been there. -/
def LadderAt (p : Platform) (w : OrgRoutingSnapshot) (outbound : OutboundMatchTable)
    (callBlock : List CompiledCallBlockRule) (s t : CompilerState) (e : ExtensionInput) : Prop :=
  ∀ plan, s.nodes.get? (extensionId e) = some ⟨extensionId e, .extension plan⟩ →
    plan.followMe = none → t.nodes.get? (extensionId e) = some ⟨extensionId e,
      .extension (withLadder plan (ladderOf p w outbound callBlock e))⟩

theorem compileExtensionFollowMe_runs (p : Platform) (callBlock : List CompiledCallBlockRule)
    (he : e ∈ w.extensions) (hs : Sound w outbound s)
    (hrules : ∀ rule ∈ outbound.rules, rule.destinationNodeId ∈ s.claimed) :
    Runs (Rewriting w outbound [extensionId e]) s
      (compileExtensionFollowMe p (index w) (build p (index w)) outbound callBlock e)
      (fun _ t => LadderAt p w outbound callBlock s t e) := by
  unfold compileExtensionFollowMe LadderAt
  cases hconfig : followMeOf e with
  | none =>
    refine .pure fun plan hn hf => ?_
    rw [hn, ladderOf_eq_none hconfig, withLadder_none hf]
  | some config =>
    refine .get_bind ?_
    cases hplan : extensionPlanAt s.nodes (extensionId e) with
    | none =>
      refine Runs.pure fun plan hn _ => ?_
      simp [extensionPlanAt, hn] at hplan
    | some entry =>
      obtain ⟨nodeId, plan⟩ := entry
      have hn := extensionPlanAt_eq_some hplan
      obtain rfl : nodeId = extensionId e := (hs.placed _ _ hn).id_eq
      have hc : extensionId e ∈ s.claimed := hs.tidy _ ((Dict.mem_keys_iff _ _).mpr ⟨_, hn⟩)
      have hhops := collectHops_runs p callBlock he hrules
        ⟨lit "extension", e.id, some e.number⟩ config
      refine ((hhops.weaken fun _ _ h hq => And.intro h hq).rel fun _ => Grows.rewriting).bind
        (fun hops t _ hh => ?_)
      obtain ⟨hst, rfl, hplaced⟩ := hh
      have hnt : t.nodes.get? (extensionId e) = some ⟨extensionId e, .extension plan⟩ := by
        rw [hst.kept _ hc, hn]
      have same : ∀ plan' : ExtensionPlan,
          s.nodes.get? (extensionId e) = some ⟨extensionId e, .extension plan'⟩ → plan' = plan := by
        intro plan' h
        rw [hn] at h
        simpa using h.symm
      refine Runs.ite (fun hnone => ?_) fun hsome => ?_
      · rw [Bool.not_eq_true'] at hnone
        refine ((addDiagnostic_runs rfl).weaken fun _ u hu _ => ?_).rel fun _ => Grows.rewriting
        intro plan' hplan' hf
        rw [same plan' hplan'] at hf ⊢
        rw [hu.kept _ (hst.claimed hc), hnt, ladderOf_eq hconfig, hnone,
          if_neg Bool.false_ne_true, withLadder_none hf]
      · rw [Bool.not_eq_true', Bool.not_eq_false] at hsome
        refine .modify (fun ht => ?_) fun plan' hplan' _ => ?_
        · exact ⟨ht.addLadder hnt hplaced, Reported.refl _, .refl _,
            fun id _ hne => t.get?_storing_of_ne _ fun he => hne (by simp [he]), .refl _⟩
        · rw [same plan' hplan', ladderOf_eq hconfig, if_pos hsome]
          exact t.get?_storing_self _ _

/-- The whole pass over rows with distinct ids. Each row's node is rewritten in
its own turn and left alone in the others. -/
theorem followMeLoop_runs (p : Platform) (callBlock : List CompiledCallBlockRule)
    (rows : List ExtensionInput) (hrows : rows ⊆ w.extensions) (hs : Sound w outbound s)
    (hrules : ∀ rule ∈ outbound.rules, rule.destinationNodeId ∈ s.claimed) :
    Runs (Rewriting w outbound (rows.map extensionId)) s
      (each (compileExtensionFollowMe p (index w) (build p (index w)) outbound callBlock) rows)
      (fun _ t => (rows.map extensionId).Nodup →
        ∀ e ∈ rows, extensionId e ∈ s.claimed → LadderAt p w outbound callBlock s t e) := by
  induction rows generalizing s with
  | nil => exact .pure (by simp)
  | cons e rest ih =>
    have hfirst := compileExtensionFollowMe_runs p callBlock
      (hrows (.head _)) hs hrules
    refine ((hfirst.weaken fun _ _ h hq => And.intro (h hs) hq).rel fun _ h => fun hs =>
      (h hs).mono (by simp)).bind fun _ t _ ht => ?_
    obtain ⟨hst, hladder⟩ := ht
    have hrest := ih (fun x hx => hrows (.tail _ hx)) hst.sound
      (fun rule hr => hst.claimed (hrules rule hr))
    refine (hrest.weaken fun _ u h hq => ?_).rel fun _ h => fun hs => (h hs).mono (by simp)
    intro hnodup x hx hcx plan hplan hf
    rw [List.map_cons, List.nodup_cons] at hnodup
    have htu := h hst.sound
    obtain rfl | hx := List.mem_cons.mp hx
    · rw [htu.others _ (hst.claimed hcx) hnodup.1]
      exact hladder plan hplan hf
    · have hne : extensionId x ∉ [extensionId e] := by
        intro hm
        rw [List.mem_singleton] at hm
        exact hnodup.1 (hm ▸ List.mem_map_of_mem hx)
      refine hq hnodup.2 x hx (hst.claimed hcx) plan ?_ hf
      rw [hst.others _ hcx hne, hplan]

theorem compileFollowMe_runs (p : Platform) (callBlock : List CompiledCallBlockRule)
    (hs : Sound w outbound s)
    (hrules : ∀ rule ∈ outbound.rules, rule.destinationNodeId ∈ s.claimed) :
    Runs (Rewriting w outbound (w.extensions.map extensionId)) s
      (compileFollowMe p w (index w) outbound callBlock)
      (fun _ t => (w.extensions.map (·.id)).Nodup →
        ∀ e ∈ w.extensions, extensionId e ∈ s.claimed → LadderAt p w outbound callBlock s t e) := by
  have hmem : ∀ e, e ∈ sortById (·.id) w.extensions ↔ e ∈ w.extensions := fun e => mem_sortOn _
  have hloop := followMeLoop_runs p callBlock
    (sortById (·.id) w.extensions) (fun e he => (hmem e).mp he) hs hrules
  refine (hloop.weaken fun _ t _ hq => ?_).rel fun _ h => fun hs => (h hs).mono ?_
  · intro hnodup e he
    apply hq _ e ((hmem e).mpr he)
    have hids : (w.extensions.map extensionId).Nodup := by
      have hinj : Function.Injective (fun id : JsString => lit "extension:" ++ id) :=
        fun a b h => List.append_cancel_left h
      have := hnodup.map hinj
      rwa [List.map_map] at this
    exact ((sortOn_perm _ _).map extensionId).nodup_iff.mpr hids
  · intro id hid
    obtain ⟨e, he, rfl⟩ := List.mem_map.mp hid
    exact List.mem_map_of_mem ((hmem e).mp he)

end OptimiqVoice.Routing.Compile

import OptimiqVoice.Routing.Compile.Entities
import OptimiqVoice.Routing.Emergency

namespace OptimiqVoice.Routing.Compile

open Lib

/-- The part of a node id before its colon names the kind of the node. -/
def tag (id : PlanNodeId) : JsString := id.takeWhile (· ≠ unit ':')

def trunkDialTag : JsString := lit "trunk-dial"

def ladder : PlanBody → Option FollowMePlan
  | .extension q => q.followMe
  | _ => none

def hops (body : PlanBody) : List FollowMeDestination :=
  ((ladder body).map (·.destinations)).getD []

/-- The edges that leave a node other than its follow-me hops. -/
def branches : PlanBody → List PlanNodeId
  | .extension q =>
    [q.forwardAllNodeId, q.busyNodeId, q.noAnswerNodeId, q.notRegisteredNodeId].filterMap id
  | body => planNodeReferences ⟨[], body⟩

theorem mem_planNodeReferences (node : PlanNode) (r : PlanNodeId) : r ∈ planNodeReferences node ↔
      r ∈ branches node.body ∨ ∃ hop ∈ hops node.body, hop.targetNodeId = some r := by
  obtain ⟨id, body⟩ := node
  cases body with
  | extension q =>
    simp only [planNodeReferences, followMeTargets, branches, hops, ladder,
      List.filterMap_append, List.mem_append]
    apply or_congr Iff.rfl
    simp [List.mem_filterMap]
  | _ => simp [planNodeReferences, branches, hops, ladder]

/-- An id that a branch may point at: it is spoken for, and it is no trunk dial. -/
def Target (id : PlanNodeId) (s : CompilerState) : Prop := id ∈ s.claimed ∧ tag id ≠ trunkDialTag

theorem Target.mono {id : PlanNodeId} {s t : CompilerState} (hid : Target id s)
    (h : s.claimed ⊆ t.claimed) : Target id t :=
  ⟨h hid.1, hid.2⟩

def HasCode (code : DiagnosticCode) (s : CompilerState) : Prop :=
  ∃ d ∈ s.diagnostics, d.code = code

/-- A warning that names an entry of the configured emergency numbers. -/
structure Drops (raw : JsString) (d : Diagnostic) : Prop where
  severity : d.severity = .warning
  code : d.code = .invalidEmergencyNumber
  named : lit "Emergency number " ++ stringify raw <+: d.message

/-- What can be reported for a snapshot. A reference into a collection that was
not loaded is not looked up, so it is not found dangling either. -/
structure Reportable (w : OrgRoutingSnapshot) (d : Diagnostic) : Prop where
  music : d.code = .danglingMohClass → w.mohClasses.isSome = true
  address : d.code = .danglingEmergencyAddress → w.emergencyAddresses.isSome = true
  invalid : d.code = .invalidEmergencyNumber →
    ∃ raw ∈ invalidEmergencyNumbers (w.settings.bind (·.emergencyNumbers)), Drops raw d

variable {d : Diagnostic}

def isGated : DiagnosticCode → Bool
  | .danglingMohClass | .danglingEmergencyAddress | .invalidEmergencyNumber => true
  | _ => false

theorem Reportable.of {w : OrgRoutingSnapshot} (h : isGated d.code = false) : Reportable w d := by
  constructor <;>
  · intro hc
    rw [hc] at h
    cases h

/-- Diagnostics are appended, and they are reportable ones. -/
def Reported (w : OrgRoutingSnapshot) (ds es : List Diagnostic) : Prop :=
  ∃ found, es = ds ++ found ∧ ∀ d ∈ found, Reportable w d

namespace Reported

variable {w : OrgRoutingSnapshot} {ds es fs : List Diagnostic}

protected theorem refl (ds : List Diagnostic) : Reported w ds ds :=
  ⟨[], (List.append_nil ds).symm, nofun⟩

protected theorem trans (h : Reported w ds es) (k : Reported w es fs) : Reported w ds fs := by
  obtain ⟨found, rfl, hf⟩ := h
  obtain ⟨more, rfl, hm⟩ := k
  refine ⟨found ++ more, List.append_assoc .., fun d hd => ?_⟩
  exact (List.mem_append.mp hd).elim (hf d) (hm d)

theorem subset (h : Reported w ds es) : ds ⊆ es := by
  obtain ⟨found, rfl, -⟩ := h
  exact List.subset_append_left ds found

theorem append_singleton (ds : List Diagnostic) (h : Reportable w d) :
    Reported w ds (ds ++ [d]) := by
  refine ⟨[d], rfl, fun x hx => ?_⟩
  rw [List.mem_singleton] at hx
  exact hx ▸ h

end Reported

theorem HasCode.mono {w : OrgRoutingSnapshot} {code : DiagnosticCode} {s t : CompilerState}
    (hs : HasCode code s) (h : Reported w s.diagnostics t.diagnostics) : HasCode code t := by
  obtain ⟨d, hd, hc⟩ := hs
  exact ⟨d, h.subset hd, hc⟩

/-- The kinds of rows whose nodes may play music on hold. -/
inductive MusicKind where
  | extension | ringGroup | queue | conference | park

def MusicKind.opening : MusicKind → JsString
  | .extension => lit "extension:"
  | .ringGroup => lit "ring-group:"
  | .queue => lit "queue:"
  | .conference => lit "conference:"
  | .park => lit "park:"

structure MusicRow where
  kind : MusicKind
  id : JsString
  enabled : Bool
  mohClassId : Nullable JsString

def MusicRow.nodeId (row : MusicRow) : PlanNodeId := row.kind.opening ++ row.id

def extensionMusic (e : ExtensionInput) : MusicRow := ⟨.extension, e.id, e.enabled, e.mohClassId⟩

def groupMusic (group : RingGroupInput) : MusicRow :=
  ⟨.ringGroup, group.id, group.enabled, group.mohClassId⟩

def queueMusic (entry : QueueInput) : MusicRow :=
  ⟨.queue, entry.id, entry.enabled, entry.mohClassId⟩

def roomMusic (room : ConferenceInput) : MusicRow :=
  ⟨.conference, room.id, room.enabled, room.mohClassId⟩

def lotMusic (lot : ParkLotInput) : MusicRow := ⟨.park, lot.id, lot.enabled, lot.mohClassId⟩

def musicRows (w : OrgRoutingSnapshot) : List MusicRow :=
  w.extensions.map extensionMusic ++ w.ringGroups.map groupMusic ++ w.queues.map queueMusic ++
    w.conferences.map roomMusic ++ w.parkLots.map lotMusic

theorem mem_musicRows {w : OrgRoutingSnapshot} {row : MusicRow} : row ∈ musicRows w ↔
      (∃ e ∈ w.extensions, extensionMusic e = row) ∨
      (∃ group ∈ w.ringGroups, groupMusic group = row) ∨
      (∃ entry ∈ w.queues, queueMusic entry = row) ∨
      (∃ room ∈ w.conferences, roomMusic room = row) ∨ ∃ lot ∈ w.parkLots, lotMusic lot = row := by
  simp only [musicRows, List.mem_append, List.mem_map, or_assoc]

/-- The row names a class, and not just with blanks. -/
def NamesClass (mohClassId : Nullable JsString) : Prop := ∃ id ∈ mohClassId.toOption, trim id ≠ []

/-- With an empty collection every class that is named is reported as missing. -/
def Noted (w : OrgRoutingSnapshot) (mohClassId : Nullable JsString) (s : CompilerState) : Prop :=
  w.mohClasses = some [] → NamesClass mohClassId → HasCode .danglingMohClass s

theorem Noted.mono {w : OrgRoutingSnapshot} {mohClassId : Nullable JsString} {s t : CompilerState}
    (hs : Noted w mohClassId s) (h : Reported w s.diagnostics t.diagnostics) :
    Noted w mohClassId t :=
  fun he hn => (hs he hn).mono h

def music : PlanBody → Option (Option JsString)
  | .extension q => some q.mohClassId
  | .ringGroup q => some q.mohClassId
  | .queue q => some q.mohClassId
  | .conference q => some q.mohClassId
  | .park q => some q.mohClassId
  | _ => none

/-- The music of a node is that of its row, and was looked up. -/
def Plays (w : OrgRoutingSnapshot) (id : PlanNodeId) (body : PlanBody) (s : CompilerState) : Prop :=
  ∀ ref ∈ music body, ∃ row ∈ musicRows w, row.nodeId = id ∧ row.mohClassId.toOption = ref ∧
    Noted w row.mohClassId s

variable {body : PlanBody}

theorem Plays.silent {w : OrgRoutingSnapshot} {id : PlanNodeId}
    {s : CompilerState} (h : music body = none) : Plays w id body s := by
  intro ref hr
  rw [h] at hr
  cases hr

theorem Plays.of_row {w : OrgRoutingSnapshot} {row : MusicRow}
    {s : CompilerState} (hrow : row ∈ musicRows w) (hm : music body = some row.mohClassId.toOption)
    (hn : Noted w row.mohClassId s) : Plays w row.nodeId body s := by
  intro ref hr
  rw [hm, Option.mem_some_iff] at hr
  exact ⟨row, hrow, rfl, hr, hn⟩

theorem Plays.mono {w : OrgRoutingSnapshot} {id : PlanNodeId}
    {s t : CompilerState} (hp : Plays w id body s) (h : Reported w s.diagnostics t.diagnostics) :
    Plays w id body t := by
  intro ref hr
  obtain ⟨row, hrow, hid, heq, hnoted⟩ := hp ref hr
  exact ⟨row, hrow, hid, heq, hnoted.mono h⟩

/-- A body that may be stored under an id, given the state it is stored in. -/
structure Fits (w : OrgRoutingSnapshot) (id : PlanNodeId) (body : PlanBody) (s : CompilerState) :
    Prop where
  tag_eq : tag id = body.kind
  branches : ∀ r ∈ branches body, Target r s
  ladder : ladder body = none
  plays : Plays w id body s

/-- What the compiler may do to its state while it builds nodes. Ids are
claimed before their nodes exist, so the table is not closed in between: what
holds throughout is that the ids still waiting for a node do not become more. -/
structure Extends (w : OrgRoutingSnapshot) (Allowed : PlanNodeId → PlanBody → Prop)
    (s t : CompilerState) : Prop where
  diagnostics : Reported w s.diagnostics t.diagnostics
  claimed : s.claimed ⊆ t.claimed
  kept : ∀ id ∈ s.claimed, t.nodes.get? id = s.nodes.get? id
  fresh : ∀ id ∉ s.claimed, ∀ node, t.nodes.get? id = some node → s.nodes.get? id = some node ∨
    (id ∈ t.claimed ∧ node.id = id ∧ Allowed id node.body ∧ Fits w id node.body t)
  closed : ∀ id ∈ t.claimed, id ∈ s.claimed ∨ id ∈ t.nodes.keys
  numbersKept : ∀ k e, s.internalNumbers.get? k = some e → t.internalNumbers.get? k = some e
  numbersFresh : ∀ e ∈ t.internalNumbers.values, e ∈ s.internalNumbers.values ∨ Target e.nodeId t
  times : s.timeConditionsById.keys ⊆ t.timeConditionsById.keys

namespace Extends

variable {w : OrgRoutingSnapshot} {Allowed : PlanNodeId → PlanBody → Prop} {s t u : CompilerState} {id : PlanNodeId}

section

variable (h : Extends w Allowed s t)

include h

theorem target (hid : Target id s) : Target id t :=
  hid.mono h.claimed

theorem fits (hb : Fits w id body s) : Fits w id body t :=
  ⟨hb.tag_eq, fun r hr => h.target (hb.branches r hr), hb.ladder, hb.plays.mono h.diagnostics⟩

theorem mem_keys (hid : id ∈ s.claimed) (hk : id ∈ s.nodes.keys) :
    id ∈ t.nodes.keys := by
  rw [Dict.mem_keys_iff] at hk ⊢
  rwa [h.kept id hid]

end

protected theorem refl (s : CompilerState) : Extends w Allowed s s where
  diagnostics := Reported.refl _
  claimed := .refl _
  kept := fun _ _ => rfl
  fresh := fun _ _ _ h => .inl h
  closed := fun _ h => .inl h
  numbersKept := fun _ _ h => h
  numbersFresh := fun _ h => .inl h
  times := .refl _

protected theorem trans (h : Extends w Allowed s t) (k : Extends w Allowed t u) :
    Extends w Allowed s u where
  diagnostics := h.diagnostics.trans k.diagnostics
  claimed := List.Subset.trans h.claimed k.claimed
  kept := fun id hid => (k.kept id (h.claimed hid)).trans (h.kept id hid)
  fresh := by
    have lift : ∀ id ∉ s.claimed, ∀ node, t.nodes.get? id = some node →
        s.nodes.get? id = some node ∨
          (id ∈ u.claimed ∧ node.id = id ∧ Allowed id node.body ∧ Fits w id node.body u) := by
      intro id hid node hn
      rcases h.fresh id hid node hn with hs | ⟨hc, he, ha, hf⟩
      · exact .inl hs
      · exact .inr ⟨k.claimed hc, he, ha, k.fits hf⟩
    intro id hid node hn
    by_cases hc : id ∈ t.claimed
    · exact lift id hid node (by rwa [k.kept id hc] at hn)
    · rcases k.fresh id hc node hn with ht | hu
      · exact lift id hid node ht
      · exact .inr hu
  closed := by
    intro id hid
    rcases k.closed id hid with hc | hk
    · rcases h.closed id hc with hs | hk
      · exact .inl hs
      · exact .inr (k.mem_keys hc hk)
    · exact .inr hk
  numbersKept := fun i e he => k.numbersKept i e (h.numbersKept i e he)
  numbersFresh := by
    intro e he
    rcases k.numbersFresh e he with ht | hu
    · rcases h.numbersFresh e ht with hs | ht
      · exact .inl hs
      · exact .inr (k.target ht)
    · exact .inr hu
  times := List.Subset.trans h.times k.times

instance : IsPreorder CompilerState (Extends w Allowed) where
  refl := Extends.refl
  trans := fun _ _ _ => Extends.trans

theorem mono {Allowed' : PlanNodeId → PlanBody → Prop}
    (ha : ∀ id body, Allowed id body → Allowed' id body) (h : Extends w Allowed s t) :
    Extends w Allowed' s t where
  __ := h
  fresh := by
    intro id hid node hn
    rcases h.fresh id hid node hn with hs | ⟨hc, he, hb, hf⟩
    · exact .inl hs
    · exact .inr ⟨hc, he, ha id node.body hb, hf⟩

theorem of_eq (hd : Reported w s.diagnostics t.diagnostics) (hn : t.nodes = s.nodes)
    (hc : t.claimed = s.claimed) (hi : t.internalNumbers = s.internalNumbers)
    (ht : s.timeConditionsById.keys ⊆ t.timeConditionsById.keys) : Extends w Allowed s t where
  diagnostics := hd
  claimed := by rw [hc]; exact .refl _
  kept := fun _ _ => by rw [hn]
  fresh := fun _ _ _ h => .inl (by rwa [hn] at h)
  closed := fun _ h => .inl (by rwa [hc] at h)
  numbersKept := fun _ _ h => by rwa [hi]
  numbersFresh := fun _ h => .inl (by rwa [hi] at h)
  times := ht

end Extends

/-- Nodes stand only under claimed ids. -/
def Tidy (s : CompilerState) : Prop := ∀ id ∈ s.nodes.keys, id ∈ s.claimed

theorem Extends.tidy {w : OrgRoutingSnapshot} {Allowed : PlanNodeId → PlanBody → Prop} {s t : CompilerState}
    (h : Extends w Allowed s t) (hs : Tidy s) : Tidy t := by
  intro id hid
  by_cases hc : id ∈ s.claimed
  · exact h.claimed hc
  obtain ⟨node, hnode⟩ := (Dict.mem_keys_iff _ _).mp hid
  obtain hold | ⟨ht, -⟩ := h.fresh id hc node hnode
  · exact h.claimed (hs id ((Dict.mem_keys_iff _ _).mpr ⟨node, hold⟩))
  · exact ht

def CompilerState.claiming (s : CompilerState) (id : PlanNodeId) : CompilerState :=
  { s with claimed := id :: s.claimed }

def CompilerState.storing (s : CompilerState) (id : PlanNodeId) (body : PlanBody) : CompilerState :=
  { s with nodes := s.nodes.set id ⟨id, body⟩ }

theorem CompilerState.get?_storing_self (s : CompilerState) (id : PlanNodeId) (body : PlanBody) :
    (s.storing id body).nodes.get? id = some ⟨id, body⟩ :=
  Dict.get?_set_self _ _ _

theorem CompilerState.get?_storing_of_ne (s : CompilerState) {id x : PlanNodeId} (body : PlanBody)
    (h : id ≠ x) : (s.storing id body).nodes.get? x = s.nodes.get? x :=
  Dict.get?_set_of_ne _ _ h

theorem CompilerState.mem_keys_storing (s : CompilerState) (id : PlanNodeId) (body : PlanBody)
    (x : PlanNodeId) : x ∈ (s.storing id body).nodes.keys ↔ x = id ∨ x ∈ s.nodes.keys :=
  Dict.mem_keys_set _ _ _ _

section rules

open Prog

variable {w : OrgRoutingSnapshot} {Allowed : PlanNodeId → PlanBody → Prop} {s : CompilerState}

theorem addDiagnostic_mem (h : Reportable w d) :
    Runs (Extends w Allowed) s (addDiagnostic d) (fun _ t => d ∈ t.diagnostics) :=
  Runs.modify (Extends.of_eq (Reported.append_singleton _ h) rfl rfl rfl (.refl _))
    (by simp)

theorem addDiagnostic_notes (h : Reportable w d) :
    Runs (Extends w Allowed) s (addDiagnostic d) (fun _ t => HasCode d.code t) :=
  (addDiagnostic_mem h).weaken fun _ _ _ hd => ⟨d, hd, rfl⟩

theorem addDiagnostic_runs (h : isGated d.code = false) :
    Runs (Extends w Allowed) s (addDiagnostic d) (fun _ _ => True) :=
  (addDiagnostic_notes (.of h)).weaken (fun _ _ _ _ => trivial)

/-- A compile that has reported an error yields no artifact. -/
def HasError (s : CompilerState) : Prop := ∃ d ∈ s.diagnostics, d.isError = true

theorem HasError.mono {s t : CompilerState} (hs : HasError s)
    (h : Reported w s.diagnostics t.diagnostics) : HasError t := by
  obtain ⟨d, hd, he⟩ := hs
  exact ⟨d, h.subset hd, he⟩

theorem reportError_runs {code : DiagnosticCode} {message : JsString}
    {subject : Option DiagnosticSubject} {path : Option JsString}
    (h : isGated code = false) :
    Runs (Extends w Allowed) s (reportError code message subject path) (fun _ t => HasError t) :=
  (addDiagnostic_mem (.of h)).weaken fun _ _ _ hd => ⟨_, hd, rfl⟩

theorem Extends.of_claiming {t : CompilerState} {id : PlanNodeId}
    (hid : id ∉ s.claimed) (h : Extends w Allowed (s.claiming id) t) (ha : Allowed id body)
    (hf : Fits w id body t) : Extends w Allowed s (t.storing id body) where
  __ := h
  claimed := fun _ hx => h.claimed (.tail _ hx)
  kept := by
    intro x hx
    have hne : id ≠ x := fun he => hid (he ▸ hx)
    rw [t.get?_storing_of_ne _ hne]
    exact h.kept x (.tail _ hx)
  fresh := by
    intro x hx node hn
    by_cases he : id = x
    · subst he
      rw [t.get?_storing_self, Option.some.injEq] at hn
      subst hn
      exact .inr ⟨h.claimed (.head _), rfl, ha, ⟨hf.tag_eq, hf.branches, hf.ladder, hf.plays⟩⟩
    · rw [t.get?_storing_of_ne _ he] at hn
      have hx' : x ∉ (s.claiming id).claimed := by
        simp [CompilerState.claiming, hx, Ne.symm he]
      rcases h.fresh x hx' node hn with hs | ⟨hc, hi, hb, hw⟩
      · exact .inl hs
      · exact .inr ⟨hc, hi, hb, ⟨hw.tag_eq, hw.branches, hw.ladder, hw.plays⟩⟩
  closed := by
    intro x hx
    rw [t.mem_keys_storing]
    rcases h.closed x hx with hc | hk
    · rcases List.mem_cons.mp hc with rfl | hs
      · exact .inr (.inl rfl)
      · exact .inl hs
    · exact .inr (.inr hk)

attribute [local simp] claimNode Prog.get pure bind

theorem claimNode_result {id r : PlanNodeId} {build : Compiler PlanBody} {t : CompilerState}
    (h : claimNode id build s = some (r, t)) : r = id := by
  by_cases hid : id ∈ s.claimed
  · have hs : claimNode id build s = some (id, s) := by
      simp [hid]
    rw [hs, Option.some.injEq, Prod.mk.injEq] at h
    exact h.1.symm
  · simp [hid, claim, Prog.modify, setNode] at h
    split at h
    · cases h
    · rw [Option.some.injEq, Prod.mk.injEq] at h
      exact h.1.symm

/-- One node: the id is returned and claimed, and when it was not claimed before
the body that was built stands under it. -/
theorem claimNode_runs {id : PlanNodeId} {build : Compiler PlanBody} {P : PlanBody → Prop}
    (hb : id ∉ s.claimed → Runs (Extends w Allowed) (s.claiming id) build
      (fun body t => P body ∧ Allowed id body ∧ Fits w id body t)) :
    Runs (Extends w Allowed) s (claimNode id build) (fun r t => r = id ∧ id ∈ t.claimed ∧
      (id ∉ s.claimed → ∃ body, P body ∧ t.nodes.get? id = some ⟨id, body⟩)) := by
  by_cases hid : id ∈ s.claimed
  · refine ⟨id, s, ?_, Extends.refl s, rfl, hid, fun h => absurd hid h⟩
    simp [hid]
  · obtain ⟨body, t, hm, he, hp, ha, hf⟩ := hb hid
    refine ⟨id, t.storing id body, ?_, Extends.of_claiming hid he ha hf, rfl,
      he.claimed (.head _), fun _ => ⟨body, hp, t.get?_storing_self id body⟩⟩
    change build { s with claimed := id :: s.claimed } = some (body, t) at hm
    simp [hid, claim, Prog.modify, hm, setNode,
      CompilerState.storing]

end rules

end OptimiqVoice.Routing.Compile

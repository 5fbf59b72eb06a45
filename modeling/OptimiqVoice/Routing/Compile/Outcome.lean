import OptimiqVoice.Routing.Compile.Closure

namespace OptimiqVoice.Routing.Compile

open Lib

variable {p : Platform} {w : OrgRoutingSnapshot} {compiledAt : JsString}

/-- An artifact together with the state and the tables it was made from. -/
structure Produces (p : Platform) (w : OrgRoutingSnapshot) (compiledAt : JsString)
    (artifact : RoutingArtifact) (tables : Tables) (s : CompilerState) : Prop where
  compiled : Compiled p w tables s
  artifact_eq : artifact = artifactOf w compiledAt tables s
  errorFree : ¬HasError s

theorem run_ok_diagnostics {artifact : RoutingArtifact} {diagnostics : List Diagnostic}
    (h : run p w compiledAt = some (.ok artifact diagnostics)) :
    ∃ tables s, Produces p w compiledAt artifact tables s ∧ diagnostics = s.diagnostics := by
  obtain ⟨tables, s, hrun, hc⟩ := passes_compiled p w
  simp only [run, hrun, Option.map_some, finish, Option.some.injEq] at h
  split at h
  · cases h
  · next hnone =>
    rw [CompileResult.ok.injEq] at h
    refine ⟨tables, s, ⟨hc, h.1.symm, ?_⟩, h.2.symm⟩
    rw [HasError]
    simpa using hnone

theorem run_ok {artifact : RoutingArtifact} {diagnostics : List Diagnostic}
    (h : run p w compiledAt = some (.ok artifact diagnostics)) :
    ∃ tables s, Produces p w compiledAt artifact tables s := by
  obtain ⟨tables, s, hproduces, -⟩ := run_ok_diagnostics h
  exact ⟨tables, s, hproduces⟩

namespace Produces

variable {artifact : RoutingArtifact} {tables : Tables} {s : CompilerState}

section

variable (h : Produces p w compiledAt artifact tables s)

include h

theorem lookup_node (id : PlanNodeId)
    (node : PlanNode) : artifact.nodes.lookup id = .own node ↔ s.nodes.get? id = some node := by
  rw [h.artifact_eq]
  exact Record.lookup_ofDict _ _ _ _

theorem placed {id : PlanNodeId} {node : PlanNode}
    (hn : artifact.nodes.lookup id = .own node) : Placed w tables.outbound s id node :=
  h.compiled.sound.placed id node ((h.lookup_node id node).mp hn)

theorem fresh : isArtifactFresh artifact w = true := by
  rw [h.artifact_eq, isArtifactFresh, Bool.and_eq_true]
  exact ⟨decide_eq_true rfl, decide_eq_true rfl⟩

theorem outboundEmergency : artifact.outbound.emergency = embedded (emergencyTable w) := by
  rw [h.artifact_eq]
  exact h.compiled.points.outboundEmergency

theorem internalEmergency : artifact.internal.emergency = embedded (emergencyTable w) := by
  rw [h.artifact_eq]
  exact h.compiled.points.internalEmergency

theorem distinctNumbers : DistinctNumbers w :=
  h.compiled.points.numbers.resolve_left h.errorFree

end

end Produces

/-- The class a caller dials out with, read off the rows: that of the enabled
extension with the calling number, and the override only if there is none. -/
def callerClass (w : OrgRoutingSnapshot) (input : ResolveOutboundInput) : Option TollClass :=
  ((w.extensions.find? (fun e => e.enabled && e.number = input.from')).map (·.tollClass)).or
    input.tollClass

theorem find_eq_of_distinct (hd : DistinctNumbers w) {e : ExtensionInput} (he : e ∈ w.extensions)
    (hen : e.enabled = true) :
    w.extensions.find? (fun x => x.enabled && x.number = e.number) = some e := by
  have hsome : (w.extensions.find? (fun x => x.enabled && x.number = e.number)).isSome := by
    rw [List.find?_isSome]
    exact ⟨e, he, by simp [hen]⟩
  obtain ⟨x, hx⟩ := Option.isSome_iff_exists.mp hsome
  have hp := List.find?_some hx
  simp only [Bool.and_eq_true, decide_eq_true_eq] at hp
  have hmem : ∀ y ∈ w.extensions, y.enabled = true → y ∈ w.extensions.filter (·.enabled) :=
    fun y hy hen => List.mem_filter.mpr ⟨hy, hen⟩
  have heq : x = e := List.inj_on_of_nodup_map hd (hmem x (List.mem_of_find?_eq_some hx) hp.1)
    (hmem e he hen) hp.2
  rw [hx, heq]

theorem Produces.effectiveTollClass_eq {artifact : RoutingArtifact} {tables : Tables}
    {s : CompilerState} (h : Produces p w compiledAt artifact tables s)
    (hproto : ∀ e ∈ w.extensions, e.number ≠ protoName) (input : ResolveOutboundInput) :
    effectiveTollClass artifact input = callerClass w input := by
  have hindex := h.compiled.points.extensions
  have htable : artifact.extensionsByNumber = tables.extensionsByNumber := by
    rw [h.artifact_eq]
    rfl
  unfold effectiveTollClass callerClass
  rw [htable]
  cases hl : tables.extensionsByNumber.lookup input.from' with
  | own entry =>
    obtain ⟨e, he, hen, hnum, hclass⟩ := (hindex.all.of_lookup hl).row
    rw [← hnum, find_eq_of_distinct h.distinctNumbers he hen, Lookup.field, Option.map_some, hclass]
  | _ =>
    have hnone : w.extensions.find? (fun e => e.enabled && e.number = input.from') = none := by
      rw [List.find?_eq_none]
      intro e he hp
      simp only [Bool.and_eq_true, decide_eq_true_eq] at hp
      obtain ⟨entry, hentry⟩ := hindex.entry e he hp.1 (hproto e he)
      rw [hp.2, hl] at hentry
      cases hentry
    rw [hnone, Lookup.field, Option.map_none]
    · intro v hv
      cases hv

end OptimiqVoice.Routing.Compile

import OptimiqVoice.Routing.CanonicalJson
import OptimiqVoice.Routing.EmergencyBypass

namespace OptimiqVoice.Routing

open Lib Compile Canonical

section dropped

variable {p : Platform} {w : OrgRoutingSnapshot} {compiledAt raw : JsString}
variable {artifact : RoutingArtifact} {diagnostics : List Diagnostic}

/-- A key of the emergency table, at which both resolvers stop. -/
def IsEmergency (p : Platform) (artifact : RoutingArtifact) (dialed : JsString) : Prop :=
  ∃ rule : EmergencyRule, emergencyLookup artifact.internal.emergency dialed = .own rule ∧
    emergencyLookup artifact.outbound.emergency dialed = .own rule ∧
    (∀ input : ResolveInternalInput, input.dialed = dialed → resolveInternal p artifact input =
      some (resolveEmergency artifact (.own rule) .internal input.from')) ∧
    ∀ input : ResolveOutboundInput, input.dialed = dialed → resolveOutbound p artifact input =
      some (resolveEmergency artifact (.own rule) .outbound input.from')

theorem isEmergency_iff (hrun : run p w compiledAt = some (.ok artifact diagnostics))
    (dialed : JsString) : IsEmergency p artifact dialed ↔
      ∃ seed ∈ emergencyNumbers (configuredNumbers w), seed.dialed = dialed := by
  obtain ⟨tables, s, h⟩ := run_ok hrun
  constructor
  · rintro ⟨rule, hlookup, -⟩
    rw [h.internalEmergency, embedded_emergencyTable] at hlookup
    obtain ⟨seed, hseed, hk, -⟩ := (emergencyTable_all w).of_lookup hlookup
    exact ⟨seed, hseed, hk.symm⟩
  · rintro ⟨seed, hseed, rfl⟩
    have hinternal := emergencyLookup_seed h.internalEmergency hseed
    have houtbound := emergencyLookup_seed h.outboundEmergency hseed
    refine ⟨_, hinternal, houtbound, fun input hdialed => ?_, fun input hdialed => ?_⟩
    · rw [resolveInternal, hdialed, hinternal, Lookup.isDefined_own, if_pos rfl]
    · rw [resolveOutbound, hdialed, houtbound, Lookup.isDefined_own, if_pos rfl]

theorem Compile.Drops.raw_eq {raw' : JsString} {d : Diagnostic} (h : Drops raw d) (h' : Drops raw' d) :
    raw = raw' := by
  obtain ⟨rest, hrest⟩ := h.named
  obtain ⟨rest', hrest'⟩ := h'.named
  have hread : ∀ s rest, readText (stringify s ++ rest).tail = some (s, rest) := by
    intro s rest
    rw [show stringify s = unit '"' :: (escapeText s ++ [unit '"']) from rfl, List.cons_append,
      List.tail_cons, List.append_assoc]
    exact readText_escapeText s rest
  rw [← hrest', List.append_assoc, List.append_assoc, List.append_cancel_left_eq] at hrest
  have hsame := hread raw rest
  rw [hrest, hread, Option.some.injEq, Prod.mk.injEq] at hsame
  exact hsame.1.symm

theorem exists_drops_iff (hrun : run p w compiledAt = some (.ok artifact diagnostics)) :
    (∃ d ∈ diagnostics, Drops raw d) ↔ raw ∈ invalidEmergencyNumbers (configuredNumbers w) := by
  obtain ⟨tables, s, h, rfl⟩ := run_ok_diagnostics hrun
  refine ⟨?_, h.compiled.points.dropped raw⟩
  rintro ⟨d, hd, hdrops⟩
  obtain ⟨found, hfound, hreportable⟩ := h.compiled.reported
  rw [hfound, List.nil_append] at hd
  obtain ⟨raw', hraw', hdrops'⟩ := (hreportable d hd).invalid hdrops.code
  exact hdrops.raw_eq hdrops' ▸ hraw'

/-- What happens to the entries that an organization configures: each is an
emergency number, or a warning names it. -/
def NoneLost (p : Platform) (w : OrgRoutingSnapshot) (artifact : RoutingArtifact)
    (diagnostics : List Diagnostic) : Prop :=
  ∀ raw ∈ (configuredNumbers w).getD [], IsEmergency p artifact (trim raw) ∨
    ∃ d ∈ diagnostics, Drops raw d

def manyNumbers : OrgRoutingSnapshot :=
  { sampleOrg with settings := some ⟨none, .absent, .absent, .absent, .absent, none, none,
      some (List.replicate maxEmergencyNumbers (lit "112") ++ [lit "999"])⟩ }

end dropped

end OptimiqVoice.Routing

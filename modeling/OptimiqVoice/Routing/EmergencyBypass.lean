import Mathlib.Data.Sum.Order
import OptimiqVoice.Routing.Compile.Outcome

namespace OptimiqVoice.Routing

open Lib Compile

/-- Where a trunk is named: by an entry of an enabled route, at its priority,
id and order; and, after all of those, by its own row. -/
abbrev TrunkRank := (Int ×ₗ (JsString ×ₗ Int)) ⊕ₗ JsString

inductive NamedAt (w : OrgRoutingSnapshot) (id : JsString) : TrunkRank → Prop where
  | entry {route : OutboundRouteInput} {entry : TrunkPriorityInput}
      (hroute : route ∈ w.outboundRoutes) (henabled : route.enabled = true)
      (hentry : entry ∈ route.trunkPriority) (hid : entry.trunkId = id) :
      NamedAt w id (Sum.inlₗ (toLex (route.priority, toLex (route.id, entry.order))))
  | row {trunk : TrunkInput} (htrunk : trunk ∈ w.trunks) (hid : trunk.id = id) :
      NamedAt w id (Sum.inrₗ trunk.name)

/-- What the failover chain of the emergency node is: every trunk once, each at
the place where it is named first. -/
structure EmergencyChain (w : OrgRoutingSnapshot) (attempts : List TrunkAttempt) : Prop where
  once : (attempts.map (·.trunkId)).Nodup
  every : ∀ id, id ∈ attempts.map (·.trunkId) ↔ ∃ trunk ∈ w.trunks, trunk.id = id
  orders : attempts.map (·.order) = (List.range attempts.length).map Int.ofNat
  ranked : (attempts.map (·.trunkId)).Pairwise (fun a b =>
    ∃ rank, NamedAt w a rank ∧ ∀ rank', NamedAt w b rank' → rank ≤ rank')

/-- Every naming of a trunk of the snapshot, in ascending order of rank. -/
def namings (w : OrgRoutingSnapshot) : List (JsString × TrunkRank) :=
  (sortOn (fun route => toLex (route.priority, route.id))
    (w.outboundRoutes.filter (·.enabled))).flatMap (fun route =>
      ((sortOn (·.order) route.trunkPriority).filter
        (fun entry => (index w).trunksById.has entry.trunkId)).map (fun entry =>
          (entry.trunkId, Sum.inlₗ (toLex (route.priority, toLex (route.id, entry.order)))))) ++
  (sortOn (·.name) w.trunks).map (fun trunk => (trunk.id, Sum.inrₗ trunk.name))

theorem emergencyTrunkIds_eq (w : OrgRoutingSnapshot) :
    emergencyTrunkIds w (index w) = appendNew [] ((namings w).map Prod.fst) := by
  rw [emergencyTrunkIds, ← appendNew_append, namings, List.map_append]
  congr 2
  · rw [routedTrunkIds, List.map_flatMap]
    congr 1
    funext route
    rw [List.map_map, List.filter_map]
    rfl
  · rw [List.map_map]
    rfl

/-- Two routes in order: every entry of the first ranks before every entry of
the second. Distinct ids leave no tie for the entry orders to decide. -/
theorem entries_le {route route' : OutboundRouteInput} (hid : route.id ≠ route'.id)
    (hle : toLex (route.priority, route.id) ≤ toLex (route'.priority, route'.id))
    (entry entry' : TrunkPriorityInput) : toLex (route.priority, toLex (route.id, entry.order)) ≤
      toLex (route'.priority, toLex (route'.id, entry'.order)) := by
  rw [Prod.Lex.toLex_le_toLex] at hle ⊢
  obtain hlt | ⟨heq, hle⟩ := hle
  · exact .inl hlt
  · refine .inr ⟨heq, ?_⟩
    rw [Prod.Lex.toLex_le_toLex]
    exact .inl (lt_of_le_of_ne hle hid)

theorem namings_pairwise (w : OrgRoutingSnapshot) (hroutes : (w.outboundRoutes.map (·.id)).Nodup) :
    (namings w).Pairwise (fun x y => x.2 ≤ y.2) := by
  refine List.pairwise_append.mpr ⟨List.pairwise_flatMap.mpr ⟨?_, ?_⟩, ?_, ?_⟩
  · intro route _
    refine List.pairwise_map.mpr (((sortOn_pairwise _ _).filter _).imp (fun {a b} h => ?_))
    rw [Sum.Lex.inl_le_inl_iff, Prod.Lex.toLex_le_toLex]
    refine .inr ⟨rfl, ?_⟩
    rw [Prod.Lex.toLex_le_toLex]
    exact .inr ⟨rfl, h⟩
  · have hids : ((w.outboundRoutes.filter (·.enabled)).map (·.id)).Nodup :=
      hroutes.sublist (List.filter_sublist.map _)
    have hdistinct := ((sortOn_perm (fun route : OutboundRouteInput =>
      toLex (route.priority, route.id)) _).map (·.id)).nodup_iff.mpr hids
    refine ((sortOn_pairwise _ _).and (List.pairwise_map.mp hdistinct)).imp (fun {a b} h => ?_)
    intro x hx y hy
    obtain ⟨entry, -, rfl⟩ := List.mem_map.mp hx
    obtain ⟨entry', -, rfl⟩ := List.mem_map.mp hy
    exact Sum.Lex.inl_le_inl_iff.mpr (entries_le h.2 h.1 entry entry')
  · refine List.pairwise_map.mpr ((sortOn_pairwise _ _).imp (fun {a b} h => ?_))
    exact Sum.Lex.inr_le_inr_iff.mpr h
  · intro x hx y hy
    obtain ⟨route, -, hx⟩ := List.mem_flatMap.mp hx
    obtain ⟨entry, -, rfl⟩ := List.mem_map.mp hx
    obtain ⟨trunk, -, rfl⟩ := List.mem_map.mp hy
    exact Sum.Lex.inl_le_inr _ _

theorem mem_trunksById_iff (w : OrgRoutingSnapshot) (id : JsString) :
    (index w).trunksById.has id = true ↔ ∃ trunk ∈ w.trunks, trunk.id = id := by
  rw [Dict.has, Option.isSome_iff_exists]
  constructor
  · intro h
    obtain ⟨trunk, ht⟩ := h
    have hm : trunk ∈ sortById (·.id) w.trunks :=
      Dict.mem_of_mem_values_indexBy _ (Dict.mem_values_of_get? ht)
    exact ⟨trunk, (mem_sortOn _).mp hm, Dict.key_of_get?_indexBy _ ht⟩
  · intro h
    obtain ⟨trunk, ht, rfl⟩ := h
    have hm : trunk ∈ sortById (·.id) w.trunks := (mem_sortOn _).mpr ht
    exact Dict.get?_indexBy_isSome (·.id) hm

theorem mem_namings_iff {w : OrgRoutingSnapshot} {id : JsString} {rank : TrunkRank}
    (hid : ∃ trunk ∈ w.trunks, trunk.id = id) : (id, rank) ∈ namings w ↔ NamedAt w id rank := by
  rw [namings, List.mem_append, List.mem_flatMap]
  constructor
  · intro h
    obtain ⟨route, hr, h⟩ | h := h
    · obtain ⟨entry, he, h⟩ := List.mem_map.mp h
      rw [Prod.mk.injEq] at h
      obtain ⟨hid, rfl⟩ := h
      rw [mem_sortOn, List.mem_filter] at hr
      rw [List.mem_filter, mem_sortOn] at he
      exact NamedAt.entry hr.1 hr.2 he.1 hid
    · obtain ⟨trunk, ht, h⟩ := List.mem_map.mp h
      rw [Prod.mk.injEq] at h
      obtain ⟨hid, rfl⟩ := h
      exact NamedAt.row ((mem_sortOn _).mp ht) hid
  · intro h
    cases h with
    | entry hroute henabled hentry hname =>
      refine .inl ⟨_, (mem_sortOn _).mpr (List.mem_filter.mpr ⟨hroute, henabled⟩), ?_⟩
      refine List.mem_map.mpr ⟨_, List.mem_filter.mpr ⟨(mem_sortOn _).mpr hentry, ?_⟩, ?_⟩
      · rw [hname]
        exact (mem_trunksById_iff w id).mpr hid
      · rw [hname]
    | row htrunk hname =>
      exact .inr (List.mem_map.mpr ⟨_, (mem_sortOn _).mpr htrunk, by rw [hname]⟩)

theorem mem_emergencyTrunkIds_iff (w : OrgRoutingSnapshot) (id : JsString) :
    id ∈ emergencyTrunkIds w (index w) ↔ ∃ trunk ∈ w.trunks, trunk.id = id := by
  rw [emergencyTrunkIds, mem_appendNew, mem_appendNew, List.mem_map]
  constructor
  · intro h
    obtain (h | h) | ⟨trunk, ht, hid⟩ := h
    · cases h
    · obtain ⟨route, -, h⟩ := List.mem_flatMap.mp h
      exact (mem_trunksById_iff w id).mp (List.mem_filter.mp h).2
    · exact ⟨trunk, (mem_sortOn _).mp ht, hid⟩
  · intro h
    obtain ⟨trunk, ht, hid⟩ := h
    exact .inr ⟨trunk, (mem_sortOn _).mpr ht, hid⟩

theorem attempts_of_ids (w : OrgRoutingSnapshot) (ids : List JsString)
    (hids : ∀ id ∈ ids, ∃ trunk ∈ w.trunks, trunk.id = id) (n : Nat) :
    (((ids.zipIdx n).filterMap (fun entry => ((index w).trunksById.get? entry.1).map
        (fun trunk => emergencyAttempt trunk entry.2))).map (·.trunkId) = ids) ∧
    (((ids.zipIdx n).filterMap (fun entry => ((index w).trunksById.get? entry.1).map
        (fun trunk => emergencyAttempt trunk entry.2))).map (·.order) =
      (List.range' n ids.length).map Int.ofNat) := by
  induction ids generalizing n with
  | nil => exact ⟨rfl, rfl⟩
  | cons id rest ih =>
    obtain ⟨trunk, ht⟩ := Option.isSome_iff_exists.mp
      ((mem_trunksById_iff w id).mpr (hids id (by simp)))
    have hid : trunk.id = id := Dict.key_of_get?_indexBy _ ht
    obtain ⟨hfst, hsnd⟩ := ih (fun x hx => hids x (.tail _ hx)) (n + 1)
    simp only [List.zipIdx_cons, List.filterMap_cons, ht, Option.map_some, List.map_cons, hfst,
      hsnd, List.length_cons, List.range'_succ]
    exact ⟨by rw [← hid]; rfl, rfl⟩

theorem emergencyTrunkAttempts_chain (w : OrgRoutingSnapshot)
    (hroutes : (w.outboundRoutes.map (·.id)).Nodup) :
    EmergencyChain w (emergencyTrunkAttempts w (index w)) := by
  obtain ⟨hids, horders⟩ := attempts_of_ids w (emergencyTrunkIds w (index w))
    (fun id hid => (mem_emergencyTrunkIds_iff w id).mp hid) 0
  change (emergencyTrunkAttempts w (index w)).map (·.trunkId) = _ at hids
  change (emergencyTrunkAttempts w (index w)).map (·.order) = _ at horders
  refine ⟨?_, ?_, ?_, ?_⟩
  · rw [hids]
    exact appendNew_nodup (appendNew_nodup List.nodup_nil)
  · intro id
    rw [hids]
    exact mem_emergencyTrunkIds_iff w id
  · rw [horders, ← hids, List.length_map, List.range_eq_range']
  · rw [hids]
    have hmem : ∀ {id}, id ∈ emergencyTrunkIds w (index w) → ∃ trunk ∈ w.trunks, trunk.id = id :=
      fun hid => (mem_emergencyTrunkIds_iff w _).mp hid
    have hranked := appendNew_ranked (namings w) (namings_pairwise w hroutes)
    rw [← emergencyTrunkIds_eq] at hranked
    refine hranked.imp_of_mem (fun {a b} ha hb h => ?_)
    obtain ⟨rank, hrank, hmin⟩ := h
    exact ⟨rank, (mem_namings_iff (hmem ha)).mp hrank,
      fun rank' hr => hmin rank' ((mem_namings_iff (hmem hb)).mpr hr)⟩

section table

variable {p : Platform} {w : OrgRoutingSnapshot} {compiledAt : JsString}
variable {artifact : RoutingArtifact} {tables : Tables} {s : CompilerState}

def configuredNumbers (w : OrgRoutingSnapshot) : Option (List JsString) :=
  w.settings.bind (·.emergencyNumbers)

theorem emergencyTable_all (w : OrgRoutingSnapshot) : (emergencyTable w).All (fun k rule =>
    ∃ seed ∈ emergencyNumbers (configuredNumbers w), k = seed.dialed ∧
      rule = ⟨seed.dialed, seed.number, emergencyNodeId⟩) :=
  Record.All.sorted _ (Record.all_foldl_assign _ _ _ _ _ Record.all_empty
    (fun seed hs => ⟨seed, hs, rfl, rfl⟩))

theorem lookup_emergencyTable {seed : EmergencyNumberSeed}
    (h : seed ∈ emergencyNumbers (configuredNumbers w)) : (emergencyTable w).lookup seed.dialed =
      .own ⟨seed.dialed, seed.number, emergencyNodeId⟩ := by
  have hproto : seed.dialed ≠ protoName := by
    intro he
    have hdial := (exists_get?_of_mem_emergencyNumbers h).2
    rw [he] at hdial
    exact absurd hdial (by decide)
  have hkey := Record.mem_own_keys_foldl_assign emergencyRuleNames (·.dialed)
    (fun seed : EmergencyNumberSeed => (⟨seed.dialed, seed.number, emergencyNodeId⟩ : EmergencyRule))
    _ Record.empty h hproto
  obtain ⟨rule, hrule⟩ := Record.exists_lookup_sorted emergencyRuleNames hkey
  obtain ⟨seed', hs', hk, rfl⟩ := (emergencyTable_all w).of_lookup hrule
  rw [emergencyNumbers_inj h hs' hk]
  rw [emergencyNumbers_inj h hs' hk] at hrule
  exact hrule

theorem embedded_emergencyTable (w : OrgRoutingSnapshot) :
    embedded (emergencyTable w) = some (emergencyTable w) := by
  have hseed : (⟨lit "911", lit "911"⟩ : EmergencyNumberSeed) ∈
      emergencyNumbers (configuredNumbers w) := defaultEmergencyNumbers_subset _ (by decide)
  rw [embedded, if_neg]
  intro hempty
  have hl := lookup_emergencyTable hseed
  rw [Record.lookup_eq_own_iff, Record.stored] at hl
  have hnone : (emergencyTable w).own.get? (lit "911") = none := by
    rw [Option.eq_none_iff_forall_ne_some]
    intro rule hr
    have hk := (Dict.mem_keys_iff _ _).mpr ⟨rule, hr⟩
    rw [List.isEmpty_iff] at hempty
    rw [Record.keys] at hempty
    rw [hempty] at hk
    cases hk
  simp only [hnone] at hl
  rw [if_neg (by decide)] at hl
  cases hl

theorem emergencyLookup_seed {table : Option (Record EmergencyRule)}
    (ht : table = embedded (emergencyTable w)) {seed : EmergencyNumberSeed}
    (h : seed ∈ emergencyNumbers (configuredNumbers w)) :
    emergencyLookup table seed.dialed = .own ⟨seed.dialed, seed.number, emergencyNodeId⟩ := by
  rw [ht, embedded_emergencyTable]
  exact lookup_emergencyTable h

/-- Reading the emergency table under a string that it has no entry for. The
string may still be the name of something every object inherits. -/
theorem emergencyLookup_of_no_entry {table : Option (Record EmergencyRule)} {d : JsString}
    (ht : table = embedded (emergencyTable w)) (hd : ∀ rule, emergencyLookup table d ≠ .own rule) :
    emergencyLookup table d = if d ∈ Record.inheritedNames then .inherited else .undefined := by
  rw [ht, embedded_emergencyTable] at hd ⊢
  change (emergencyTable w).lookup d = _
  apply Record.lookup_of_stored_eq_none
  · apply Record.proto_ofDict
    rw [Option.eq_none_iff_forall_ne_some]
    intro rule hrule
    obtain ⟨seed, hseed, hk, -⟩ := emergencyTable_all w protoName rule
      ((Record.stored_ofDict _ _ _).trans hrule)
    have hdial := (exists_get?_of_mem_emergencyNumbers hseed).2
    rw [← hk] at hdial
    exact absurd hdial (by decide)
  · rw [Option.eq_none_iff_forall_ne_some]
    intro rule hrule
    exact hd rule ((Record.lookup_eq_own_iff _ _ _).mpr hrule)

/-- A route to the emergency node with the wire number of a seed. -/
def EntersEmergency (seed : EmergencyNumberSeed) (route : Option ResolvedRoute) : Prop :=
  ∃ r, route = some r ∧ r.matched = true ∧ r.plan.entryNodeId = some emergencyNodeId ∧
    r.dialedNumber = some seed.number

end table

/-- An emergency number reaches every trunk, past everything configured. -/
structure EmergencyBypass (p : Platform) (w : OrgRoutingSnapshot) (artifact : RoutingArtifact) :
    Prop where
  seeds : defaultEmergencyNumbers ⊆ emergencyNumbers (configuredNumbers w)
  internal : ∀ seed ∈ emergencyNumbers (configuredNumbers w), ∀ input : ResolveInternalInput,
    input.dialed = seed.dialed → EntersEmergency seed (resolveInternal p artifact input)
  outbound : ∀ seed ∈ emergencyNumbers (configuredNumbers w), ∀ input : ResolveOutboundInput,
    input.dialed = seed.dialed → EntersEmergency seed (resolveOutbound p artifact input)
  node : ∃ plan, artifact.nodes.lookup emergencyNodeId = .own ⟨emergencyNodeId, .trunkDial plan⟩ ∧
    EmergencyChain w plan.attempts

/-- In every artifact compiled without errors. Route ids are the primary keys of
their table; only the order of the chain depends on it. -/
theorem emergencyBypass_of_run (p : Platform) (w : OrgRoutingSnapshot) (compiledAt : JsString)
    (artifact : RoutingArtifact) (diagnostics : List Diagnostic)
    (hrun : run p w compiledAt = some (.ok artifact diagnostics))
    (hroutes : (w.outboundRoutes.map (·.id)).Nodup) : EmergencyBypass p w artifact := by
  obtain ⟨tables, s, h⟩ := run_ok hrun
  have hinternal := h.internalEmergency
  have houtbound := h.outboundEmergency
  refine ⟨defaultEmergencyNumbers_subset _, ?_, ?_, ?_⟩
  · intro seed hseed input hdialed
    refine ⟨resolveEmergency artifact (.own ⟨seed.dialed, seed.number, emergencyNodeId⟩) .internal
      input.from', ?_, rfl, rfl, rfl⟩
    rw [resolveInternal, hdialed, emergencyLookup_seed hinternal hseed, Lookup.isDefined_own, if_pos rfl]
  · intro seed hseed input hdialed
    refine ⟨resolveEmergency artifact (.own ⟨seed.dialed, seed.number, emergencyNodeId⟩) .outbound
      input.from', ?_, rfl, rfl, rfl⟩
    rw [resolveOutbound, hdialed, emergencyLookup_seed houtbound hseed, Lookup.isDefined_own, if_pos rfl]
  · obtain ⟨-, location, hn⟩ := h.compiled.points.emergencyNode
    exact ⟨emergencyPlan w (index w) location, (h.lookup_node _ _).mpr hn,
      emergencyTrunkAttempts_chain w hroutes⟩

theorem emergencyBypass_sampleOrg : ∃ artifact diagnostics,
      run samplePlatform sampleOrg (lit "now") = some (.ok artifact diagnostics) ∧
      EmergencyBypass samplePlatform sampleOrg artifact := by
  obtain ⟨artifact, diagnostics, hrun, -⟩ := exists_of_okWith (fun _ => true)
    (run samplePlatform sampleOrg (lit "now")) (by decide)
  exact ⟨artifact, diagnostics, hrun, emergencyBypass_of_run _ _ _ _ _ hrun (by decide)⟩

end OptimiqVoice.Routing

import OptimiqVoice.Routing.Compile.Absent

namespace OptimiqVoice.Routing.Compile

open Lib

/-- An optional collection that both snapshots have, with the same rows. -/
def BothPresent {α : Type} (o o' : Option (List α)) : Prop :=
  ∃ rows rows', o = some rows ∧ o' = some rows' ∧ rows.Perm rows'

variable {α : Type}

theorem BothPresent.getD_perm {o o' : Option (List α)} (h : BothPresent o o') :
    (o.getD []).Perm (o'.getD []) := by
  obtain ⟨rows, rows', rfl, rfl, hp⟩ := h
  exact hp

theorem BothPresent.isSome_eq {o o' : Option (List α)} (h : BothPresent o o') :
    o'.isSome = o.isSome := by
  obtain ⟨rows, rows', rfl, rfl, -⟩ := h
  rfl

/-- The second snapshot holds the rows of the first in another order. -/
structure Reordered (w w' : OrgRoutingSnapshot) : Prop where
  organizationId : w'.organizationId = w.organizationId
  settings : w'.settings = w.settings
  extensions : w.extensions.Perm w'.extensions
  phoneNumbers : w.phoneNumbers.Perm w'.phoneNumbers
  trunks : w.trunks.Perm w'.trunks
  inboundRoutes : w.inboundRoutes.Perm w'.inboundRoutes
  outboundRoutes : w.outboundRoutes.Perm w'.outboundRoutes
  timeConditions : w.timeConditions.Perm w'.timeConditions
  timeConditionRules : w.timeConditionRules.Perm w'.timeConditionRules
  ivrMenus : w.ivrMenus.Perm w'.ivrMenus
  ivrMenuOptions : w.ivrMenuOptions.Perm w'.ivrMenuOptions
  ringGroups : w.ringGroups.Perm w'.ringGroups
  ringGroupDestinations : w.ringGroupDestinations.Perm w'.ringGroupDestinations
  queues : w.queues.Perm w'.queues
  voicemailBoxes : w.voicemailBoxes.Perm w'.voicemailBoxes
  voicemailGreetings : BothPresent w.voicemailGreetings w'.voicemailGreetings
  mohClasses : BothPresent w.mohClasses w'.mohClasses
  conferences : w.conferences.Perm w'.conferences
  parkLots : w.parkLots.Perm w'.parkLots
  featureCodes : w.featureCodes.Perm w'.featureCodes
  callBlockRules : w.callBlockRules.Perm w'.callBlockRules
  emergencyAddresses : BothPresent w.emergencyAddresses w'.emergencyAddresses

/-- Everything the compiler reads of a snapshot, each collection in the orders it
is walked in. -/
structure ReadsAlike (w w' : OrgRoutingSnapshot) : Prop where
  organizationId : w'.organizationId = w.organizationId
  settings : w'.settings = w.settings
  extensions : sortById (·.id) w'.extensions = sortById (·.id) w.extensions
  phoneNumbers : sortById (·.id) w'.phoneNumbers = sortById (·.id) w.phoneNumbers
  trunks : sortById (·.id) w'.trunks = sortById (·.id) w.trunks
  inboundRoutes : sortById (·.id) w'.inboundRoutes = sortById (·.id) w.inboundRoutes
  outboundRoutes : sortById (·.id) w'.outboundRoutes = sortById (·.id) w.outboundRoutes
  timeConditions : sortById (·.id) w'.timeConditions = sortById (·.id) w.timeConditions
  timeConditionRules : sortById (·.id) w'.timeConditionRules = sortById (·.id) w.timeConditionRules
  ivrMenus : sortById (·.id) w'.ivrMenus = sortById (·.id) w.ivrMenus
  ivrMenuOptions : sortById (·.id) w'.ivrMenuOptions = sortById (·.id) w.ivrMenuOptions
  ringGroups : sortById (·.id) w'.ringGroups = sortById (·.id) w.ringGroups
  ringGroupDestinations : sortById (·.id) w'.ringGroupDestinations = sortById (·.id) w.ringGroupDestinations
  queues : sortById (·.id) w'.queues = sortById (·.id) w.queues
  voicemailBoxes : sortById (·.id) w'.voicemailBoxes = sortById (·.id) w.voicemailBoxes
  voicemailGreetings : sortById (·.id) (w'.voicemailGreetings.getD []) = sortById (·.id) (w.voicemailGreetings.getD [])
  mohClasses : sortById (·.id) (w'.mohClasses.getD []) = sortById (·.id) (w.mohClasses.getD [])
  conferences : sortById (·.id) w'.conferences = sortById (·.id) w.conferences
  parkLots : sortById (·.id) w'.parkLots = sortById (·.id) w.parkLots
  featureCodes : sortById (·.id) w'.featureCodes = sortById (·.id) w.featureCodes
  callBlockRules : sortById (·.id) w'.callBlockRules = sortById (·.id) w.callBlockRules
  emergencyAddresses : sortById (·.id) (w'.emergencyAddresses.getD []) = sortById (·.id) (w.emergencyAddresses.getD [])
  ivrMenuOptionsOrdinal : sortByOrdinal (·.ordinal) (·.id) w'.ivrMenuOptions =
    sortByOrdinal (·.ordinal) (·.id) w.ivrMenuOptions
  ringGroupDestinationsOrdinal : sortByOrdinal (·.ordinal) (·.id) w'.ringGroupDestinations =
    sortByOrdinal (·.ordinal) (·.id) w.ringGroupDestinations
  timeConditionRulesOrdinal : sortByOrdinal (·.ordinal) (·.id) w'.timeConditionRules =
    sortByOrdinal (·.ordinal) (·.id) w.timeConditionRules
  numbersByE164 : sortOn (·.e164) w'.phoneNumbers = sortOn (·.e164) w.phoneNumbers
  trunksByName : sortOn (·.name) w'.trunks = sortOn (·.name) w.trunks
  routesByPriority :
    sortOn (fun route => toLex (route.priority, route.id)) (w'.outboundRoutes.filter (·.enabled)) =
      sortOn (fun route => toLex (route.priority, route.id)) (w.outboundRoutes.filter (·.enabled))
  stations : (w'.extensions.filter (·.enabled)).length = (w.extensions.filter (·.enabled)).length
  stationNumbers : sortOn id ((w'.extensions.filter (·.enabled)).map (·.number)) =
    sortOn id ((w.extensions.filter (·.enabled)).map (·.number))
  musicLoaded : w'.mohClasses.isSome = w.mohClasses.isSome
  addressesLoaded : w'.emergencyAddresses.isSome = w.emergencyAddresses.isSome

section rows

variable {w w' : OrgRoutingSnapshot}

theorem sortById_eq {id : α → JsString} {rows rows' : List α} (h : rows.Perm rows')
    (hid : (rows.map id).Nodup) : sortById id rows' = sortById id rows :=
  sortOn_eq_of_perm id h (injOn_of_nodup_map hid)

theorem sortByOrdinal_eq {ordinal : α → Int} {id : α → JsString} {rows rows' : List α}
    (h : rows.Perm rows') (hid : (rows.map id).Nodup) :
    sortByOrdinal ordinal id rows' = sortByOrdinal ordinal id rows :=
  sortOn_eq_of_perm _ h (injOn_toLex (injOn_of_nodup_map hid))

theorem Reordered.readsAlike (h : Reordered w w') (hids : DistinctIds w)
    (hnames : (w.trunks.map (·.name)).Nodup) (he164 : (w.phoneNumbers.map (·.e164)).Nodup) :
    ReadsAlike w w' where
  organizationId := h.organizationId
  settings := h.settings
  extensions := sortById_eq h.extensions hids.extensions
  phoneNumbers := sortById_eq h.phoneNumbers hids.phoneNumbers
  trunks := sortById_eq h.trunks hids.trunks
  inboundRoutes := sortById_eq h.inboundRoutes hids.inboundRoutes
  outboundRoutes := sortById_eq h.outboundRoutes hids.outboundRoutes
  timeConditions := sortById_eq h.timeConditions hids.timeConditions
  timeConditionRules := sortById_eq h.timeConditionRules hids.timeConditionRules
  ivrMenus := sortById_eq h.ivrMenus hids.ivrMenus
  ivrMenuOptions := sortById_eq h.ivrMenuOptions hids.ivrMenuOptions
  ringGroups := sortById_eq h.ringGroups hids.ringGroups
  ringGroupDestinations := sortById_eq h.ringGroupDestinations hids.ringGroupDestinations
  queues := sortById_eq h.queues hids.queues
  voicemailBoxes := sortById_eq h.voicemailBoxes hids.voicemailBoxes
  voicemailGreetings := sortById_eq h.voicemailGreetings.getD_perm hids.voicemailGreetings
  mohClasses := sortById_eq h.mohClasses.getD_perm hids.mohClasses
  conferences := sortById_eq h.conferences hids.conferences
  parkLots := sortById_eq h.parkLots hids.parkLots
  featureCodes := sortById_eq h.featureCodes hids.featureCodes
  callBlockRules := sortById_eq h.callBlockRules hids.callBlockRules
  emergencyAddresses := sortById_eq h.emergencyAddresses.getD_perm hids.emergencyAddresses
  ivrMenuOptionsOrdinal := sortByOrdinal_eq h.ivrMenuOptions hids.ivrMenuOptions
  ringGroupDestinationsOrdinal := sortByOrdinal_eq h.ringGroupDestinations hids.ringGroupDestinations
  timeConditionRulesOrdinal := sortByOrdinal_eq h.timeConditionRules hids.timeConditionRules
  numbersByE164 := sortOn_eq_of_perm _ h.phoneNumbers (injOn_of_nodup_map he164)
  trunksByName := sortOn_eq_of_perm _ h.trunks (injOn_of_nodup_map hnames)
  routesByPriority := by
    have hid : ((w.outboundRoutes.filter (·.enabled)).map (·.id)).Nodup :=
      (List.filter_sublist.map _).nodup hids.outboundRoutes
    exact sortOn_eq_of_perm _ (h.outboundRoutes.filter _) (injOn_toLex (injOn_of_nodup_map hid))
  stations := (h.extensions.filter _).length_eq.symm
  -- Two stations may share a number: the texts alone are sorted, and equal texts are one.
  stationNumbers :=
    sortOn_eq_of_perm _ ((h.extensions.filter _).map _) (fun _ _ _ _ hab => hab)
  musicLoaded := h.mohClasses.isSome_eq
  addressesLoaded := h.emergencyAddresses.isSome_eq

end rows

namespace ReadsAlike

variable {p : Platform} {w w' : OrgRoutingSnapshot}

section

variable (h : ReadsAlike w w')

include h

theorem canonicalizeSnapshot_eq : canonicalizeSnapshot w' = canonicalizeSnapshot w := by
  have rows : ∀ {α : Type} {id : α → JsString} {f : α → Json} {l l' : List α},
      sortById id l' = sortById id l → collectionJson id f l' = collectionJson id f l := by
    intro α id f l l' hl
    exact congrArg (fun rows => Json.arr (rows.map f)) hl
  rw [canonicalizeSnapshot, h.organizationId, h.settings, rows h.extensions, rows h.phoneNumbers,
    rows h.trunks, rows h.inboundRoutes, rows h.outboundRoutes, rows h.timeConditions,
    rows h.timeConditionRules, rows h.ivrMenus, rows h.ivrMenuOptions, rows h.ringGroups,
    rows h.ringGroupDestinations, rows h.queues, rows h.voicemailBoxes, rows h.voicemailGreetings,
    rows h.mohClasses, rows h.conferences, rows h.parkLots, rows h.featureCodes,
    rows h.callBlockRules, rows h.emergencyAddresses, canonicalizeSnapshot]

theorem index_eq : index w' = index w := by
  simp only [index, h.extensions, h.voicemailBoxes, h.ivrMenus, h.ringGroups, h.queues,
    h.conferences, h.parkLots, h.phoneNumbers, h.trunks, h.timeConditions, h.musicLoaded,
    h.mohClasses, h.emergencyAddresses, h.voicemailGreetings, h.ivrMenuOptionsOrdinal,
    h.ringGroupDestinationsOrdinal, h.timeConditionRulesOrdinal]

theorem prepare_eq (ix : Index) : prepare p w' ix = prepare p w ix := by
  have hgreetings : indexVoicemailGreetings w' ix = indexVoicemailGreetings w ix := by
    rw [indexVoicemailGreetings, h.voicemailGreetings, indexVoicemailGreetings]
  have hsettings : compileSettings p w' = compileSettings p w := by
    rw [compileSettings, h.settings, compileSettings]
  have hconditions : compileTimeConditions p w' ix = compileTimeConditions p w ix := by
    rw [compileTimeConditions, h.timeConditions, compileTimeConditions]
  have hentities : materialiseEntities p w' ix = materialiseEntities p w ix := by
    rw [materialiseEntities, h.extensions, h.voicemailBoxes, h.ringGroups, h.ivrMenus, h.queues,
      h.conferences, h.parkLots, h.timeConditions, materialiseEntities]
  rw [prepare, hgreetings, hsettings, hconditions, hentities, prepare]

theorem compileEmergency_eq (ix : Index) : compileEmergency w' ix = compileEmergency w ix := by
  have hvoice : voiceNumbers w' = voiceNumbers w := by
    rw [voiceNumbers, h.numbersByE164, voiceNumbers]
  have hlocation : emergencyLocation w' ix = emergencyLocation w ix := by
    rw [emergencyLocation, h.addressesLoaded, hvoice, emergencyLocation]
  have hattempts : emergencyTrunkAttempts w' ix = emergencyTrunkAttempts w ix := by
    simp only [emergencyTrunkAttempts, emergencyTrunkIds, routedTrunkIds, h.routesByPriority,
      h.trunksByName]
  have hreach : ∀ n, reportEmergencyReachability w' n = reportEmergencyReachability w n := by
    intro n
    have hempty : (w'.extensions.filter (·.enabled)).isEmpty =
        (w.extensions.filter (·.enabled)).isEmpty := by
      rw [Bool.eq_iff_iff, List.isEmpty_iff_length_eq_zero, h.stations,
        List.isEmpty_iff_length_eq_zero]
    simp only [reportEmergencyReachability, hempty, h.stations, h.stationNumbers]
  simp only [compileEmergency, reportInvalidEmergencyNumbers, emergencyPlan, emergencyTable,
    h.settings, hlocation, hattempts, hreach]

theorem compileInternal_eq (ix : Index) (emergency : Record EmergencyRule) :
    compileInternal p w' ix emergency = compileInternal p w ix emergency := by
  have hcodes : compileFeatureCodes p w' ix = compileFeatureCodes p w ix := by
    rw [compileFeatureCodes, h.featureCodes, compileFeatureCodes]
  have hopenings : compileVoicemailPrefixes w' = compileVoicemailPrefixes w := by
    funext codes
    simp only [compileVoicemailPrefixes, configuredPrefixes, h.settings]
  have hnumbers : claimInternalNumbers p w' ix = claimInternalNumbers p w ix := by
    rw [claimInternalNumbers, h.extensions, h.ringGroups, h.ivrMenus, h.queues, h.conferences,
      claimInternalNumbers]
  have hslots : compileParkSlots p w' ix = compileParkSlots p w ix := by
    rw [compileParkSlots, h.parkLots, compileParkSlots]
  have hboxes : compileMailboxes w' ix = compileMailboxes w ix := by
    rw [compileMailboxes, h.voicemailBoxes, compileMailboxes]
  rw [compileInternal, hcodes, hopenings, hnumbers, hslots, hboxes, compileInternal]

theorem passes_eq : passes p w' = passes p w := by
  have hinbound : ∀ ix, compileInbound p w' ix = compileInbound p w ix := by
    intro ix
    rw [compileInbound, h.inboundRoutes, h.phoneNumbers, compileInbound]
  have houtbound : ∀ ix settings emergency, compileOutbound p w' ix settings emergency =
      compileOutbound p w ix settings emergency := by
    intro ix settings emergency
    rw [compileOutbound, trunkContinueOnCauses, h.settings, h.outboundRoutes, compileOutbound,
      trunkContinueOnCauses]
  have hblock : compileCallBlock p w' = compileCallBlock p w := by
    rw [compileCallBlock, h.callBlockRules, compileCallBlock]
  have hextensions : ∀ ix, compileExtensionIndex p w' ix = compileExtensionIndex p w ix := by
    intro ix
    rw [compileExtensionIndex, h.extensions, compileExtensionIndex]
  have hladders : ∀ ix outbound callBlock, compileFollowMe p w' ix outbound callBlock =
      compileFollowMe p w ix outbound callBlock := by
    intro ix outbound callBlock
    rw [compileFollowMe, h.extensions, compileFollowMe]
  have htables : ∀ ix, compileTables p w' ix = compileTables p w ix := by
    intro ix
    simp only [compileTables, h.prepare_eq, h.compileEmergency_eq, h.compileInternal_eq, hinbound,
      houtbound, hblock, hextensions]
  simp only [passes, h.index_eq, htables, hladders]

theorem run_eq (compiledAt : JsString) : run p w' compiledAt = run p w compiledAt := by
  have hartifact : ∀ tables s, artifactOf w' compiledAt tables s = artifactOf w compiledAt tables s := by
    intro tables s
    rw [artifactOf, snapshotHash, h.canonicalizeSnapshot_eq, h.organizationId]
    rfl
  rw [run, run, h.passes_eq]
  simp only [finish, hartifact]

end

end ReadsAlike

/-- The loader may deliver the rows in any order: the compile refuses the same
input, reports the same and builds the same artifact. -/
theorem tryCompileRoutingArtifact_reordered (p : Platform) {w w' : OrgRoutingSnapshot}
    (compiledAt : JsString) (h : Reordered w w') (hids : DistinctIds w)
    (hnames : (w.trunks.map (·.name)).Nodup) (he164 : (w.phoneNumbers.map (·.e164)).Nodup) :
    tryCompileRoutingArtifact p w' compiledAt = tryCompileRoutingArtifact p w compiledAt := by
  have halike := h.readsAlike hids hnames he164
  simp only [tryCompileRoutingArtifact, assertSnapshotShape, halike.organizationId, halike.run_eq]

def reversedOrg : OrgRoutingSnapshot :=
  { sampleOrg with
    extensions := sampleOrg.extensions.reverse
    trunks := sampleOrg.trunks.reverse }

theorem reordered_sampleOrg : Reordered sampleOrg reversedOrg := by
  constructor
  case voicemailGreetings | mohClasses | emergencyAddresses =>
    exact ⟨[], [], rfl, rfl, List.Perm.refl _⟩
  case extensions | trunks => exact (List.reverse_perm _).symm
  all_goals rfl

theorem tryCompileRoutingArtifact_reversedOrg : reversedOrg ≠ sampleOrg ∧
      tryCompileRoutingArtifact samplePlatform reversedOrg (lit "now") =
        tryCompileRoutingArtifact samplePlatform sampleOrg (lit "now") :=
  ⟨by decide, tryCompileRoutingArtifact_reordered samplePlatform (lit "now") reordered_sampleOrg
    distinctIds_sampleOrg (by decide) (by decide)⟩

end OptimiqVoice.Routing.Compile

import OptimiqVoice.Lib.FirstSeen
import OptimiqVoice.Routing.Compile.Outbound
import OptimiqVoice.Routing.Emergency

namespace OptimiqVoice.Routing.Compile

open Lib Telephony

structure EmergencyLocation where
  (elin emergencyAddressId : JsString)

variable (s : OrgRoutingSnapshot)

def reportInvalidEmergencyNumbers : Compiler Unit :=
  Prog.each (fun raw =>
    reportWarning .invalidEmergencyNumber (lit "Emergency number " ++ stringify raw ++
        lit " is not a dial string this release can match; it was dropped. The compiled-in " ++
        lit "emergency numbers are unaffected.") none (some (lit "settings.emergencyNumbers")))
    (invalidEmergencyNumbers (s.settings.bind (·.emergencyNumbers)))

def voiceNumbers : List PhoneNumberInput :=
  (sortOn (·.e164) s.phoneNumbers).filter (fun did => did.enabled && did.voiceEnabled)

def assignedAddress (did : PhoneNumberInput) : Option JsString :=
  did.emergencyAddressId.toOption.filter (fun id => trim id ≠ [])

/-- One number offers itself when its address is known and validated, or when
no addresses were loaded to check it against. -/
def offerLocation (loaded : Bool) (ix : Index) (chosen : Option EmergencyLocation)
    (did : PhoneNumberInput) : Compiler (Option EmergencyLocation) :=
  let subject : DiagnosticSubject := ⟨lit "phone-number", did.id, some did.e164⟩
  match assignedAddress did with
  | none => pure chosen
  | some addressId =>
    if !loaded then pure (chosen.or (some ⟨did.e164, addressId⟩))
    else match ix.emergencyAddressesById.get? addressId with
      | none => do
        reportWarning .danglingEmergencyAddress
          (lit "Number " ++ did.e164 ++ lit " names emergency address " ++ quoted addressId ++
            lit ", which is not in this snapshot; it cannot serve as this organization's ELIN.")
          (some subject) (some (lit "emergencyAddressId"))
        pure chosen
      | some address =>
        if !address.validated then do
          reportWarning .danglingEmergencyAddress
            (lit "Number " ++ did.e164 ++ lit " names emergency address " ++
              quoted address.label ++ lit ", which the carrier has not validated; it cannot " ++
              lit "serve as this organization's ELIN until it is.")
            (some subject) (some (lit "emergencyAddressId"))
          pure chosen
        else pure (chosen.or (some ⟨did.e164, addressId⟩))

def reportUnassigned (did : PhoneNumberInput) : Compiler Unit :=
  if (assignedAddress did).isSome then pure ()
  else reportWarning .missingEmergencyAddress
    (lit "Number " ++ did.e164 ++ lit " has no emergency address, so it cannot be used as an " ++
      lit "emergency callback number (ELIN). RAY BAUM'S Act requires a dispatchable location " ++
      lit "for every station that can dial 911.")
    (some ⟨lit "phone-number", did.id, some did.e164⟩) (some (lit "emergencyAddressId"))

variable (ix : Index)

def emergencyLocation : Compiler (Option EmergencyLocation) := do
  let chosen ← Prog.fold (offerLocation s.emergencyAddresses.isSome ix) none (voiceNumbers s)
  Prog.each reportUnassigned (voiceNumbers s)
  pure chosen

/-- The trunks the enabled routes name, by priority, route id and entry order. -/
def routedTrunkIds : List JsString :=
  let routes := sortOn (fun route => toLex (route.priority, route.id))
    (s.outboundRoutes.filter (·.enabled))
  routes.flatMap (fun route =>
    ((sortOn (·.order) route.trunkPriority).map (·.trunkId)).filter ix.trunksById.has)

def emergencyTrunkIds : List JsString :=
  appendNew (appendNew [] (routedTrunkIds s ix)) ((sortOn (·.name) s.trunks).map (·.id))

/-- The ordinary caller-id override of a trunk is not carried: it would replace
the emergency callback number. -/
def emergencyAttempt (trunk : TrunkInput) (order : Nat) : TrunkAttempt where
  trunkId := trunk.id
  name := trunk.name
  kind := trunk.kind
  sipDomain := trunk.sipDomain
  sipProxy := trunk.sipProxy
  outboundProxy := trunk.outboundProxy.toOption
  transport := trunk.transport
  codecPrefs := trunk.codecPrefs.toOption
  maxChannels := trunk.maxChannels.toOption
  callerIdNumberOverride := none
  order := order
  weight := none

def emergencyTrunkAttempts : List TrunkAttempt :=
  (emergencyTrunkIds s ix).zipIdx.filterMap (fun entry =>
    (ix.trunksById.get? entry.1).map (fun trunk => emergencyAttempt trunk entry.2))

def reportEmergencyReachability (attemptCount : Nat) : Compiler Unit :=
  let stations := s.extensions.filter (·.enabled)
  if 0 < attemptCount || stations.isEmpty then pure ()
  else
    let named := (sortOn id (stations.map (·.number))).take 5
    let suffix := if named.length < stations.length then
        lit " and " ++ natText (stations.length - named.length) ++ lit " more" else []
    reportWarning .noEmergencyRoute
      (lit "This organization has no trunk an emergency call could take, so extensions " ++
        join (lit ", ") named ++ suffix ++ lit " cannot reach a dispatcher by dialing 911.")
      none (some (lit "trunks"))

def emergencyRuleNames (_ : EmergencyRule) : List JsString :=
  [lit "dialed", lit "number", lit "destinationNodeId"]

def emergencyTable : Record EmergencyRule :=
  ((emergencyNumbers (s.settings.bind (·.emergencyNumbers))).foldl
    (fun table seed => table.assign emergencyRuleNames seed.dialed
      ⟨seed.dialed, seed.number, emergencyNodeId⟩) Record.empty).sorted emergencyRuleNames

def emergencyPlan (location : Option EmergencyLocation) : TrunkDialPlan where
  label := lit "Emergency"
  outboundRouteId := emergencyRouteId
  tollClass := .internal
  attempts := emergencyTrunkAttempts s ix
  continueOnCauses := emergencyContinueOnCauses
  recordEnabled := false
  callerIdNumberOverride := none
  failoverNodeId := none
  emergency := true
  emergencyAddressId := location.map (·.emergencyAddressId)
  elin := location.map (·.elin)

def compileEmergency : Compiler (Record EmergencyRule) := do
  reportInvalidEmergencyNumbers s
  let location ← emergencyLocation s ix
  reportEmergencyReachability s (emergencyTrunkAttempts s ix).length
  let _ ← claimNode emergencyNodeId (pure (.trunkDial (emergencyPlan s ix location)))
  pure (emergencyTable s)

end OptimiqVoice.Routing.Compile

import OptimiqVoice.Routing.Sha256
import OptimiqVoice.Routing.SnapshotJson

namespace OptimiqVoice.Routing

open Lib

def collectionJson {α : Type} (id : α → JsString) (f : α → Json) (rows : List α) : Json :=
  .arr ((sortOn id rows).map f)

/-- An absent optional collection is read as an empty one. -/
def canonicalizeSnapshot (s : OrgRoutingSnapshot) : JsString :=
  canonicalJson (.object
    [("organizationId", some (.str s.organizationId)),
     ("settings", some ((s.settings.map RoutingSettingsInput.json).getD .null)),
     ("extensions", some (collectionJson (·.id) ExtensionInput.json s.extensions)),
     ("phoneNumbers", some (collectionJson (·.id) PhoneNumberInput.json s.phoneNumbers)),
     ("trunks", some (collectionJson (·.id) TrunkInput.json s.trunks)),
     ("inboundRoutes", some (collectionJson (·.id) InboundRouteInput.json s.inboundRoutes)),
     ("outboundRoutes", some (collectionJson (·.id) OutboundRouteInput.json s.outboundRoutes)),
     ("timeConditions", some (collectionJson (·.id) TimeConditionInput.json s.timeConditions)),
     ("timeConditionRules",
       some (collectionJson (·.id) TimeConditionRuleInput.json s.timeConditionRules)),
     ("ivrMenus", some (collectionJson (·.id) IvrMenuInput.json s.ivrMenus)),
     ("ivrMenuOptions", some (collectionJson (·.id) IvrMenuOptionInput.json s.ivrMenuOptions)),
     ("ringGroups", some (collectionJson (·.id) RingGroupInput.json s.ringGroups)),
     ("ringGroupDestinations",
       some (collectionJson (·.id) RingGroupDestinationInput.json s.ringGroupDestinations)),
     ("queues", some (collectionJson (·.id) QueueInput.json s.queues)),
     ("voicemailBoxes", some (collectionJson (·.id) VoicemailBoxInput.json s.voicemailBoxes)),
     ("voicemailGreetings", some (collectionJson (·.id) VoicemailGreetingInput.json
       (s.voicemailGreetings.getD []))),
     ("mohClasses", some (collectionJson (·.id) MohClassInput.json (s.mohClasses.getD []))),
     ("conferences", some (collectionJson (·.id) ConferenceInput.json s.conferences)),
     ("parkLots", some (collectionJson (·.id) ParkLotInput.json s.parkLots)),
     ("featureCodes", some (collectionJson (·.id) FeatureCodeInput.json s.featureCodes)),
     ("callBlockRules", some (collectionJson (·.id) CallBlockRuleInput.json s.callBlockRules)),
     ("emergencyAddresses", some (collectionJson (·.id) EmergencyAddressInput.json
       (s.emergencyAddresses.getD [])))])

def snapshotHash (s : OrgRoutingSnapshot) : JsString := Sha256.sha256 (canonicalizeSnapshot s)

end OptimiqVoice.Routing

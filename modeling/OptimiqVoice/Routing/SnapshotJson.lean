import OptimiqVoice.Routing.Snapshot

namespace OptimiqVoice.Routing

open Lib

def listJson {α : Type} (f : α → Json) (l : List α) : Json := .arr (l.map f)

def Scalar.json : Scalar → Json
  | .str s => .str s
  | .num i => .num i
  | .bool b => .bool b

def argsJson (args : Args) : Json := .obj (args.map (fun a => (a.1, a.2.json)))

def TimeWindow.json (w : TimeWindow) : Json :=
  .object [("from", some (.str w.start)), ("to", some (.str w.stop))]

def DestinationData.json (r : DestinationData) : Json :=
  .object (
    [("value", r.value.map .str), ("args", r.args.map argsJson), ("cause", r.cause.map .str)])

def TimeRulePredicateInput.json (r : TimeRulePredicateInput) : Json :=
  .object ([("weekdays", r.weekdays.map (listJson .num)),
      ("monthDays", r.monthDays.map (listJson .num)), ("months", r.months.map (listJson .num)),
      ("weeksOfMonth", r.weeksOfMonth.map (listJson .num)),
      ("timeOfDay", r.timeOfDay.map TimeWindow.json),
      ("dateRange", r.dateRange.map TimeWindow.json)])

def FollowMeTargetInput.json (r : FollowMeTargetInput) : Json :=
  .object ([("destination", r.destination.json .str), ("delaySeconds", r.delaySeconds.map .num),
      ("timeoutSeconds", r.timeoutSeconds.map .num), ("confirm", r.confirm.map .bool)])

def FollowMeInput.json (r : FollowMeInput) : Json :=
  .object ([("enabled", some (.bool r.enabled)), ("ignoreBusy", r.ignoreBusy.map .bool),
      ("targets", r.targets.json (listJson FollowMeTargetInput.json))])

def TrunkPriorityInput.json (r : TrunkPriorityInput) : Json :=
  .object ([("trunkId", some (.str r.trunkId)), ("order", some (.num r.order)),
      ("weight", r.weight.map .num)])

def DestinationInput.fields (d : DestinationInput) : List (String × Option Json) :=
  [("destinationType", some (.str d.destinationType.text)),
   ("destinationRef", d.destinationRef.json .str),
   ("destinationData", d.destinationData.json DestinationData.json)]

/-- The three columns of a named trio carry its name in front. -/
def NamedDestination.fields (name : String) (d : NamedDestination) : List (String × Option Json) :=
  [(name ++ "DestinationType", d.type.json (fun t => .str t.text)),
   (name ++ "DestinationRef", d.ref.json .str),
   (name ++ "DestinationData", d.data.json DestinationData.json)]

def ExtensionInput.json (r : ExtensionInput) : Json :=
  .object ([("id", some (.str r.id)), ("enabled", some (.bool r.enabled)),
      ("number", some (.str r.number)), ("label", some (.str r.label)),
      ("callerIdName", r.callerIdName.json .str), ("callerIdNumber", r.callerIdNumber.json .str),
      ("outboundCallerIdName", r.outboundCallerIdName.json .str),
      ("outboundCallerIdNumber", r.outboundCallerIdNumber.json .str),
      ("emergencyCallerIdNumber", r.emergencyCallerIdNumber.json .str),
      ("voicemailEnabled", some (.bool r.voicemailEnabled)),
      ("doNotDisturb", some (.bool r.doNotDisturb)),
      ("forwardAllEnabled", some (.bool r.forwardAllEnabled)),
      ("forwardAllDestination", r.forwardAllDestination.json .str),
      ("forwardBusyEnabled", some (.bool r.forwardBusyEnabled)),
      ("forwardBusyDestination", r.forwardBusyDestination.json .str),
      ("forwardNoAnswerEnabled", some (.bool r.forwardNoAnswerEnabled)),
      ("forwardNoAnswerDestination", r.forwardNoAnswerDestination.json .str),
      ("forwardUnregisteredEnabled", some (.bool r.forwardUnregisteredEnabled)),
      ("forwardUnregisteredDestination", r.forwardUnregisteredDestination.json .str),
      ("followMe", r.followMe.json FollowMeInput.json), ("pickupGroup", r.pickupGroup.json .str),
      ("recordPolicy", some (.str r.recordPolicy.text)), ("mohClassId", r.mohClassId.json .str),
      ("tollClass", some (.str r.tollClass.text)),
      ("callTimeoutSeconds", some (.num r.callTimeoutSeconds))])

def PhoneNumberInput.json (r : PhoneNumberInput) : Json :=
  .object (
    [("id", some (.str r.id)), ("enabled", some (.bool r.enabled)), ("e164", some (.str r.e164)),
      ("label", r.label.json .str), ("callerIdNamePrefix", r.callerIdNamePrefix.json .str),
      ("recordEnabled", some (.bool r.recordEnabled)),
      ("voiceEnabled", some (.bool r.voiceEnabled)),
      ("emergencyAddressId", r.emergencyAddressId.json .str)] ++ r.destination.fields)

def TrunkInput.json (r : TrunkInput) : Json :=
  .object (
    [("id", some (.str r.id)), ("enabled", some (.bool r.enabled)), ("name", some (.str r.name)),
      ("kind", some (.str r.kind.text)), ("sipDomain", some (.str r.sipDomain)),
      ("sipProxy", some (.str r.sipProxy)), ("outboundProxy", r.outboundProxy.json .str),
      ("transport", some (.str r.transport.text)), ("codecPrefs", r.codecPrefs.json .str),
      ("maxChannels", r.maxChannels.json .num),
      ("callerIdNumberOverride", r.callerIdNumberOverride.json .str)])

def InboundRouteInput.json (r : InboundRouteInput) : Json :=
  .object (
    [("id", some (.str r.id)), ("enabled", some (.bool r.enabled)), ("name", some (.str r.name)),
      ("priority", some (.num r.priority)), ("matchKind", some (.str r.matchKind.text)),
      ("matchPattern", r.matchPattern.json .str), ("phoneNumberId", r.phoneNumberId.json .str),
      ("callerIdPattern", r.callerIdPattern.json .str)] ++ r.failover.fields "failover" ++
    [("timeConditionId", r.timeConditionId.json .str),
      ("recordEnabled", some (.bool r.recordEnabled))] ++ r.destination.fields)

def OutboundRouteInput.json (r : OutboundRouteInput) : Json :=
  .object (
    [("id", some (.str r.id)), ("enabled", some (.bool r.enabled)), ("name", some (.str r.name)),
      ("priority", some (.num r.priority)), ("matchKind", some (.str r.matchKind.text)),
      ("dialPatterns", some ((listJson .str) r.dialPatterns)),
      ("stripDigits", some (.num r.stripDigits)), ("prependDigits", r.prependDigits.json .str),
      ("tollClass", some (.str r.tollClass.text)),
      ("trunkPriority", some ((listJson TrunkPriorityInput.json) r.trunkPriority)),
      ("timeConditionId", r.timeConditionId.json .str)] ++ r.failover.fields "failover" ++
    [("callerIdNumberOverride", r.callerIdNumberOverride.json .str),
      ("recordEnabled", some (.bool r.recordEnabled))])

def TimeConditionInput.json (r : TimeConditionInput) : Json :=
  .object (
    [("id", some (.str r.id)), ("enabled", some (.bool r.enabled)), ("name", some (.str r.name)),
      ("timezone", some (.str r.timezone))] ++ r.destination.fields ++ r.noMatch.fields "nomatch")

def TimeConditionRuleInput.json (r : TimeConditionRuleInput) : Json :=
  .object ([("id", some (.str r.id)), ("enabled", some (.bool r.enabled)),
      ("timeConditionId", some (.str r.timeConditionId)), ("ordinal", some (.num r.ordinal)),
      ("label", r.label.json .str),
      ("predicates", some ((listJson TimeRulePredicateInput.json) r.predicates))])

def IvrMenuInput.json (r : IvrMenuInput) : Json :=
  .object (
    [("id", some (.str r.id)), ("enabled", some (.bool r.enabled)), ("name", some (.str r.name)),
      ("extensionNumber", r.extensionNumber.json .str), ("parentId", r.parentId.json .str),
      ("greetingPromptId", r.greetingPromptId.json .str),
      ("shortGreetingPromptId", r.shortGreetingPromptId.json .str),
      ("invalidPromptId", r.invalidPromptId.json .str),
      ("timeoutPromptId", r.timeoutPromptId.json .str),
      ("digitTimeoutMs", some (.num r.digitTimeoutMs)),
      ("interDigitTimeoutMs", some (.num r.interDigitTimeoutMs)),
      ("maxDigits", some (.num r.maxDigits)), ("maxFailures", some (.num r.maxFailures)),
      ("maxTimeouts", some (.num r.maxTimeouts)),
      ("directDialEnabled", some (.bool r.directDialEnabled))] ++ r.timeout.fields "timeout" ++
    r.invalid.fields "invalid")

def IvrMenuOptionInput.json (r : IvrMenuOptionInput) : Json :=
  .object ([("id", some (.str r.id)), ("enabled", some (.bool r.enabled)),
      ("ivrMenuId", some (.str r.ivrMenuId)), ("ordinal", some (.num r.ordinal)),
      ("matchKind", some (.str r.matchKind.text)), ("matchValue", some (.str r.matchValue)),
      ("label", r.label.json .str)] ++ r.destination.fields)

def RingGroupInput.json (r : RingGroupInput) : Json :=
  .object (
    [("id", some (.str r.id)), ("enabled", some (.bool r.enabled)), ("name", some (.str r.name)),
      ("extensionNumber", r.extensionNumber.json .str), ("strategy", some (.str r.strategy.text)),
      ("ringTimeoutSeconds", some (.num r.ringTimeoutSeconds)),
      ("callerIdNamePrefix", r.callerIdNamePrefix.json .str),
      ("ignoreBusy", some (.bool r.ignoreBusy)), ("confirmEnabled", some (.bool r.confirmEnabled)),
      ("confirmPromptId", r.confirmPromptId.json .str), ("mohClassId", r.mohClassId.json .str),
      ("ringbackPromptId", r.ringbackPromptId.json .str)] ++ r.timeout.fields "timeout")

def RingGroupDestinationInput.json (r : RingGroupDestinationInput) : Json :=
  .object ([("id", some (.str r.id)), ("enabled", some (.bool r.enabled)),
      ("ringGroupId", some (.str r.ringGroupId)), ("ordinal", some (.num r.ordinal)),
      ("delaySeconds", some (.num r.delaySeconds)),
      ("timeoutSeconds", some (.num r.timeoutSeconds)),
      ("confirmRequired", some (.bool r.confirmRequired))] ++ r.destination.fields)

def QueueInput.json (r : QueueInput) : Json :=
  .object (
    [("id", some (.str r.id)), ("enabled", some (.bool r.enabled)), ("name", some (.str r.name)),
      ("extensionNumber", r.extensionNumber.json .str), ("strategy", some (.str r.strategy.text)),
      ("mohClassId", r.mohClassId.json .str), ("greetingPromptId", r.greetingPromptId.json .str),
      ("announcePromptId", r.announcePromptId.json .str),
      ("maxWaitSeconds", some (.num r.maxWaitSeconds)),
      ("maxWaitNoAgentSeconds", some (.num r.maxWaitNoAgentSeconds)),
      ("announcePositionEnabled", some (.bool r.announcePositionEnabled)),
      ("announceFrequencySeconds", some (.num r.announceFrequencySeconds)),
      ("recordEnabled", some (.bool r.recordEnabled))] ++ r.timeout.fields "timeout")

def VoicemailBoxInput.json (r : VoicemailBoxInput) : Json :=
  .object ([("id", some (.str r.id)), ("enabled", some (.bool r.enabled)),
      ("mailboxNumber", some (.str r.mailboxNumber)), ("label", r.label.json .str),
      ("extensionId", r.extensionId.json .str), ("mwiEnabled", some (.bool r.mwiEnabled)),
      ("maxMessageSeconds", some (.num r.maxMessageSeconds)), ("pinHash", r.pinHash.json .str)])

def VoicemailGreetingInput.json (r : VoicemailGreetingInput) : Json :=
  .object ([("id", some (.str r.id)), ("voicemailBoxId", some (.str r.voicemailBoxId)),
      ("kind", some (.str r.kind.text)), ("objectKey", some (.str r.objectKey)),
      ("active", some (.bool r.active)), ("durationMs", r.durationMs.json .num),
      ("label", r.label.json .str)])

def MohClassInput.json (r : MohClassInput) : Json :=
  .object (
    [("id", some (.str r.id)), ("enabled", some (.bool r.enabled)), ("name", some (.str r.name))])

def ConferenceInput.json (r : ConferenceInput) : Json :=
  .object (
    [("id", some (.str r.id)), ("enabled", some (.bool r.enabled)), ("name", some (.str r.name)),
      ("roomNumber", some (.str r.roomNumber)), ("requiresPin", some (.bool r.requiresPin)),
      ("maxMembers", some (.num r.maxMembers)), ("mohClassId", r.mohClassId.json .str),
      ("waitForModerator", some (.bool r.waitForModerator)),
      ("recordEnabled", some (.bool r.recordEnabled)), ("pinHash", r.pinHash.json .str),
      ("moderatorPinHash", r.moderatorPinHash.json .str),
      ("requiresModeratorPin", r.requiresModeratorPin.map .bool)])

def ParkLotInput.json (r : ParkLotInput) : Json :=
  .object (
    [("id", some (.str r.id)), ("enabled", some (.bool r.enabled)), ("name", some (.str r.name)),
      ("slotStart", some (.num r.slotStart)), ("slotEnd", some (.num r.slotEnd)),
      ("timeoutSeconds", some (.num r.timeoutSeconds)), ("mohClassId", r.mohClassId.json .str)] ++
    r.timeout.fields "timeout")

def FeatureCodeInput.json (r : FeatureCodeInput) : Json :=
  .object (
    [("id", some (.str r.id)), ("enabled", some (.bool r.enabled)), ("code", some (.str r.code)),
      ("action", some (.str r.action.text)), ("params", r.params.json argsJson),
      ("label", r.label.json .str)])

def CallBlockRuleInput.json (r : CallBlockRuleInput) : Json :=
  .object ([("id", some (.str r.id)), ("enabled", some (.bool r.enabled)),
      ("pattern", some (.str r.pattern)), ("matchKind", some (.str r.matchKind.text)),
      ("direction", some (.str r.direction.text)), ("action", some (.str r.action.text)),
      ("label", r.label.json .str)])

def EmergencyAddressInput.json (r : EmergencyAddressInput) : Json :=
  .object ([("id", some (.str r.id)), ("label", some (.str r.label)),
      ("validated", some (.bool r.validated))])

def RoutingSettingsInput.json (r : RoutingSettingsInput) : Json :=
  .object ([("defaultTimezone", r.defaultTimezone.map .str),
      ("voicemailPrefix", r.voicemailPrefix.json .str),
      ("voicemailCheckPrefix", r.voicemailCheckPrefix.json .str),
      ("outboundCallerIdNumber", r.outboundCallerIdNumber.json .str),
      ("outboundCallerIdName", r.outboundCallerIdName.json .str),
      ("trunkContinueOnCauses", r.trunkContinueOnCauses.map (listJson .str)),
      ("outboundEnabled", r.outboundEnabled.map .bool),
      ("emergencyNumbers", r.emergencyNumbers.map (listJson .str))])

end OptimiqVoice.Routing

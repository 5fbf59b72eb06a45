import OptimiqVoice.Lib.Text

namespace OptimiqVoice.Routing

open Lib

inductive DiagnosticSeverity where
  | error | warning | info
deriving DecidableEq

inductive DiagnosticCode where
  | danglingDestination | unknownDestinationType | invalidDestinationShape | selfReferencingIvr
  | ivrCycle | emptyRingGroup | emptyTrunkList | unknownTrunk | disabledTrunk
  | missingTimeCondition | unresolvableForward | unresolvableFollowMe | emptyFollowMe
  | missingVoicemailBox | danglingMohClass | danglingVoicemailGreeting | invalidPinHash
  | missingEmergencyAddress | danglingEmergencyAddress | noEmergencyRoute
  | emergencyNumberShadowed | invalidEmergencyNumber | duplicateInternalNumber
  | conflictingFeatureCode | overlappingDidPattern | unreachableRoute | disabledEntity
  | invalidRegex | unanchoredRegex | invalidPattern | invalidDigitManipulation | invalidTimeRule
  | unknownTimezone | emptyTimeCondition | noMatch | callBlocked | callerNotInternal
  | tollClassDenied | digitManipulationUnderflow | planDepthExceeded | timeConditionOpen
  | timeConditionClosed | emergencyCall
deriving DecidableEq

structure DiagnosticSubject where
  (kind id : JsString)
  name : Option JsString
deriving DecidableEq

structure Diagnostic where
  severity : DiagnosticSeverity
  code : DiagnosticCode
  message : JsString
  subject : Option DiagnosticSubject
  path : Option JsString
deriving DecidableEq

def Diagnostic.isError (d : Diagnostic) : Bool := d.severity = .error

end OptimiqVoice.Routing

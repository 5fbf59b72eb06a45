import OptimiqVoice.Lib.Text

namespace OptimiqVoice.Telephony

open Lib

inductive HangupCause where
  | none | unallocatedNumber | noRouteTransitNet | noRouteDestination | channelUnacceptable
  | callAwardedDelivered | normalClearing | userBusy | noUserResponse | noAnswer
  | subscriberAbsent | callRejected | numberChanged | redirectionToNewDestination
  | exchangeRoutingError | destinationOutOfOrder | invalidNumberFormat | facilityRejected
  | responseToStatusEnquiry | normalUnspecified | normalCircuitCongestion | networkOutOfOrder
  | normalTemporaryFailure | switchCongestion | accessInfoDiscarded | requestedChanUnavail
  | preEmpted | facilityNotSubscribed | outgoingCallBarred | incomingCallBarred
  | bearercapabilityNotauth | bearercapabilityNotavail | serviceUnavailable
  | bearercapabilityNotimpl | chanNotImplemented | facilityNotImplemented | serviceNotImplemented
  | invalidCallReference | incompatibleDestination | invalidMsgUnspecified | mandatoryIeMissing
  | messageTypeNonexist | wrongMessage | ieNonexist | invalidIeContents | wrongCallState
  | recoveryOnTimerExpire | mandatoryIeLengthError | protocolError | interworking
  | originatorCancel | loseRace | blindTransfer | attendedTransfer | allottedTimeout
  | userChallenge | mediaTimeout | pickedOff | userNotRegistered | progressTimeout
  | invalidGateway | gatewayDown | invalidUrl | invalidProfile | noPickup | srtpReadError
deriving DecidableEq

def HangupCause.text : HangupCause → JsString
  | .none => lit "NONE"
  | .unallocatedNumber => lit "UNALLOCATED_NUMBER"
  | .noRouteTransitNet => lit "NO_ROUTE_TRANSIT_NET"
  | .noRouteDestination => lit "NO_ROUTE_DESTINATION"
  | .channelUnacceptable => lit "CHANNEL_UNACCEPTABLE"
  | .callAwardedDelivered => lit "CALL_AWARDED_DELIVERED"
  | .normalClearing => lit "NORMAL_CLEARING"
  | .userBusy => lit "USER_BUSY"
  | .noUserResponse => lit "NO_USER_RESPONSE"
  | .noAnswer => lit "NO_ANSWER"
  | .subscriberAbsent => lit "SUBSCRIBER_ABSENT"
  | .callRejected => lit "CALL_REJECTED"
  | .numberChanged => lit "NUMBER_CHANGED"
  | .redirectionToNewDestination => lit "REDIRECTION_TO_NEW_DESTINATION"
  | .exchangeRoutingError => lit "EXCHANGE_ROUTING_ERROR"
  | .destinationOutOfOrder => lit "DESTINATION_OUT_OF_ORDER"
  | .invalidNumberFormat => lit "INVALID_NUMBER_FORMAT"
  | .facilityRejected => lit "FACILITY_REJECTED"
  | .responseToStatusEnquiry => lit "RESPONSE_TO_STATUS_ENQUIRY"
  | .normalUnspecified => lit "NORMAL_UNSPECIFIED"
  | .normalCircuitCongestion => lit "NORMAL_CIRCUIT_CONGESTION"
  | .networkOutOfOrder => lit "NETWORK_OUT_OF_ORDER"
  | .normalTemporaryFailure => lit "NORMAL_TEMPORARY_FAILURE"
  | .switchCongestion => lit "SWITCH_CONGESTION"
  | .accessInfoDiscarded => lit "ACCESS_INFO_DISCARDED"
  | .requestedChanUnavail => lit "REQUESTED_CHAN_UNAVAIL"
  | .preEmpted => lit "PRE_EMPTED"
  | .facilityNotSubscribed => lit "FACILITY_NOT_SUBSCRIBED"
  | .outgoingCallBarred => lit "OUTGOING_CALL_BARRED"
  | .incomingCallBarred => lit "INCOMING_CALL_BARRED"
  | .bearercapabilityNotauth => lit "BEARERCAPABILITY_NOTAUTH"
  | .bearercapabilityNotavail => lit "BEARERCAPABILITY_NOTAVAIL"
  | .serviceUnavailable => lit "SERVICE_UNAVAILABLE"
  | .bearercapabilityNotimpl => lit "BEARERCAPABILITY_NOTIMPL"
  | .chanNotImplemented => lit "CHAN_NOT_IMPLEMENTED"
  | .facilityNotImplemented => lit "FACILITY_NOT_IMPLEMENTED"
  | .serviceNotImplemented => lit "SERVICE_NOT_IMPLEMENTED"
  | .invalidCallReference => lit "INVALID_CALL_REFERENCE"
  | .incompatibleDestination => lit "INCOMPATIBLE_DESTINATION"
  | .invalidMsgUnspecified => lit "INVALID_MSG_UNSPECIFIED"
  | .mandatoryIeMissing => lit "MANDATORY_IE_MISSING"
  | .messageTypeNonexist => lit "MESSAGE_TYPE_NONEXIST"
  | .wrongMessage => lit "WRONG_MESSAGE"
  | .ieNonexist => lit "IE_NONEXIST"
  | .invalidIeContents => lit "INVALID_IE_CONTENTS"
  | .wrongCallState => lit "WRONG_CALL_STATE"
  | .recoveryOnTimerExpire => lit "RECOVERY_ON_TIMER_EXPIRE"
  | .mandatoryIeLengthError => lit "MANDATORY_IE_LENGTH_ERROR"
  | .protocolError => lit "PROTOCOL_ERROR"
  | .interworking => lit "INTERWORKING"
  | .originatorCancel => lit "ORIGINATOR_CANCEL"
  | .loseRace => lit "LOSE_RACE"
  | .blindTransfer => lit "BLIND_TRANSFER"
  | .attendedTransfer => lit "ATTENDED_TRANSFER"
  | .allottedTimeout => lit "ALLOTTED_TIMEOUT"
  | .userChallenge => lit "USER_CHALLENGE"
  | .mediaTimeout => lit "MEDIA_TIMEOUT"
  | .pickedOff => lit "PICKED_OFF"
  | .userNotRegistered => lit "USER_NOT_REGISTERED"
  | .progressTimeout => lit "PROGRESS_TIMEOUT"
  | .invalidGateway => lit "INVALID_GATEWAY"
  | .gatewayDown => lit "GATEWAY_DOWN"
  | .invalidUrl => lit "INVALID_URL"
  | .invalidProfile => lit "INVALID_PROFILE"
  | .noPickup => lit "NO_PICKUP"
  | .srtpReadError => lit "SRTP_READ_ERROR"

def HangupCause.all : List HangupCause :=
  [.none, .unallocatedNumber, .noRouteTransitNet, .noRouteDestination, .channelUnacceptable,
   .callAwardedDelivered, .normalClearing, .userBusy, .noUserResponse, .noAnswer,
   .subscriberAbsent, .callRejected, .numberChanged, .redirectionToNewDestination,
   .exchangeRoutingError, .destinationOutOfOrder, .invalidNumberFormat, .facilityRejected,
   .responseToStatusEnquiry, .normalUnspecified, .normalCircuitCongestion, .networkOutOfOrder,
   .normalTemporaryFailure, .switchCongestion, .accessInfoDiscarded, .requestedChanUnavail,
   .preEmpted, .facilityNotSubscribed, .outgoingCallBarred, .incomingCallBarred,
   .bearercapabilityNotauth, .bearercapabilityNotavail, .serviceUnavailable,
   .bearercapabilityNotimpl, .chanNotImplemented, .facilityNotImplemented,
   .serviceNotImplemented, .invalidCallReference, .incompatibleDestination,
   .invalidMsgUnspecified, .mandatoryIeMissing, .messageTypeNonexist, .wrongMessage, .ieNonexist,
   .invalidIeContents, .wrongCallState, .recoveryOnTimerExpire, .mandatoryIeLengthError,
   .protocolError, .interworking, .originatorCancel, .loseRace, .blindTransfer,
   .attendedTransfer, .allottedTimeout, .userChallenge, .mediaTimeout, .pickedOff,
   .userNotRegistered, .progressTimeout, .invalidGateway, .gatewayDown, .invalidUrl,
   .invalidProfile, .noPickup, .srtpReadError]

def HangupCause.ofText? (s : JsString) : Option HangupCause :=
  HangupCause.all.find? (fun c => c.text = s)

def isHangupCause (s : JsString) : Bool := (HangupCause.ofText? s).isSome

def retryableHangupCauses : List HangupCause :=
  [.noRouteTransitNet, .noRouteDestination, .channelUnacceptable, .destinationOutOfOrder,
   .normalCircuitCongestion, .networkOutOfOrder, .normalTemporaryFailure, .switchCongestion,
   .requestedChanUnavail, .serviceUnavailable, .recoveryOnTimerExpire, .protocolError,
   .interworking, .noUserResponse, .mediaTimeout, .progressTimeout, .invalidGateway,
   .gatewayDown, .srtpReadError]

end OptimiqVoice.Telephony

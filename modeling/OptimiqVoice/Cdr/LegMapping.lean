import OptimiqVoice.Cdr.DurableConsumer
import OptimiqVoice.Telephony.HangupCauses

namespace OptimiqVoice.Cdr

open Lib Telephony

inductive CallLegSide where
  | a | b

inductive CallDirection where
  | inbound | outbound | internal

inductive CallDestinationType where
  | extension | queue | ivr | ringGroup | voicemail | conference | trunk | external | application
  | timeCondition | park | unknown

inductive HangupSide where
  | caller | callee | system

inductive CallDisposition where
  | answered | noAnswer | busy | failed | voicemail

def CallLegSide.named : List (String × CallLegSide) := [("a", .a), ("b", .b)]

def CallDirection.named : List (String × CallDirection) :=
  [("inbound", .inbound), ("outbound", .outbound), ("internal", .internal)]

def CallDestinationType.text : CallDestinationType → JsString
  | .extension => lit "extension"
  | .queue => lit "queue"
  | .ivr => lit "ivr"
  | .ringGroup => lit "ring_group"
  | .voicemail => lit "voicemail"
  | .conference => lit "conference"
  | .trunk => lit "trunk"
  | .external => lit "external"
  | .application => lit "application"
  | .timeCondition => lit "time_condition"
  | .park => lit "park"
  | .unknown => lit "unknown"

def HangupSide.named : List (String × HangupSide) :=
  [("caller", .caller), ("callee", .callee), ("system", .system)]

def CallDisposition.named : List (String × CallDisposition) :=
  [("answered", .answered), ("no-answer", .noAnswer), ("busy", .busy), ("failed", .failed),
    ("voicemail", .voicemail)]

def member {α : Type} (named : List (String × α)) (text : JsString) : Option α :=
  (named.find? (fun n => lit n.1 = text)).map (·.2)

def MAPPED_KEYS : List JsString :=
  ["id", "callId", "leg", "originatingLegId", "bridgeLegId", "direction", "fromNumber", "fromName",
    "toNumber", "destinationType", "destinationRef", "startedAt", "answeredAt", "endedAt",
    "durationMs", "billsecMs", "hangupCause", "hangupCauseCode", "hangupSide", "disposition"].map lit

/-- The kinds of the routing plan and the words of the report. A step of a call
is not a destination, so three kinds stand for none. -/
def DESTINATION_TYPE_ALIASES : List (String × CallDestinationType) :=
  [("extension", .extension), ("queue", .queue), ("voicemail", .voicemail),
    ("conference", .conference), ("park", .park), ("external", .external),
    ("application", .application), ("unknown", .unknown), ("ring-group", .ringGroup),
    ("ring_group", .ringGroup), ("ivr-menu", .ivr), ("ivr", .ivr),
    ("time-condition", .timeCondition), ("time_condition", .timeCondition),
    ("trunk-dial", .trunk), ("trunk", .trunk), ("playback", .unknown), ("feature-code", .unknown),
    ("hangup", .unknown)]

def isHexDigit (u : CodeUnit) : Bool :=
  isDigit u || (97 ≤ u && u ≤ 102) || (65 ≤ u && u ≤ 70)

/-- `UUID_PATTERN`: groups of eight, four, four, four and twelve digits. -/
def isUuid (s : JsString) : Bool :=
  (split (unit '-') s).map List.length = [8, 4, 4, 4, 12] && (split (unit '-') s).all (·.all isHexDigit)

structure CdrLegCoercion where
  field : JsString
  received : Option JsonValue
  stored : JsString

structure CallLegInsertValues where
  (id organizationId callId : JsString)
  leg : CallLegSide
  (originatingLegId bridgeLegId : Option JsString)
  direction : CallDirection
  fromNumber : JsString
  fromName : Option JsString
  toNumber : JsString
  destinationType : CallDestinationType
  destinationRef : Option JsString
  startedAt : Int
  (answeredAt endedAt : Option Int)
  (durationMs billsecMs : Int)
  hangupCause : HangupCause
  hangupCauseCode : Int
  hangupSide : Option HangupSide
  disposition : CallDisposition
  raw : JsonValue.Fields

structure CdrLegMappingResult where
  values : CallLegInsertValues
  coercions : List CdrLegCoercion

variable (value : Option JsonValue)

def asString : Option JsString :=
  (value.bind JsonValue.text?).filter (· ≠ [])

def asUuid : Option JsString := (asString value).filter isUuid

def asDate (P : Platform) (value : Option JsonValue) : Option Int :=
  (asString value).bind P.parseDate

def asFinite : Option JsonValue → Option Rat
  | some (.num n) => n.finite?
  | _ => none

def asNonNegativeInt : Int :=
  ((asFinite value).filter (0 ≤ ·)).elim 0 JsNumber.trunc

/-- What a column takes of a payload's text, and whether that had to be
rewritten. -/
def coerce {α : Type} (field : String) (received : Option JsonValue) (stored : String) (fallback : α)
    (read : Option α) : α × List CdrLegCoercion :=
  match read with
  | some value => (value, [])
  | none => (fallback, [⟨lit field, received, lit stored⟩])

variable (received : Option JsonValue)

/-- The destination's type. A plan kind that is spelled otherwise in the report
counts as rewritten. -/
def destinationTypeOf : CallDestinationType × List CdrLegCoercion :=
  let destinationType :=
    ((asString received).bind (member DESTINATION_TYPE_ALIASES)).getD .unknown
  if asString received = some destinationType.text then (destinationType, [])
  else (destinationType, [⟨lit "destinationType", received, destinationType.text⟩])

/-- A cause without a name in the taxonomy keeps its number and loses its name;
a cause that did not come at all is none. -/
def hangupCauseOf : HangupCause × List CdrLegCoercion :=
  match asString received with
  | none => (.none, [])
  | some cause =>
    coerce "hangupCause" received "NORMAL_UNSPECIFIED" .normalUnspecified (HangupCause.ofText? cause)

def hangupSideOf : Option HangupSide × List CdrLegCoercion :=
  match asString received with
  | none => (none, [])
  | some side =>
    coerce "hangupSide" received "system" (some .system) ((member HangupSide.named side).map some)

def hangupCauseCodeOf : Int :=
  (asFinite received).elim 0 (fun code => max 0 (min 32767 (JsNumber.trunc code)))

def assign (fields : JsonValue.Fields) (key : String) (value : JsonValue) : JsonValue.Fields :=
  if fields.any (·.1 = lit key) then fields.map (fun f => if f.1 = lit key then (f.1, value) else f)
  else fields ++ [(lit key, value)]

/-- A coercion as it is kept in the row. A value that did not come leaves no
entry in the text. -/
def CdrLegCoercion.json (c : CdrLegCoercion) : JsonValue :=
  .obj ([(lit "field", .str c.field)] ++ (c.received.map (lit "received", ·)).toList ++
    [(lit "stored", .str c.stored)])

/-- The keys that are no column. An assignment to `__proto__` makes no entry. -/
def unmapped (payload : JsonValue.Fields) : JsonValue.Fields :=
  payload.filter (fun f => f.1 ∉ MAPPED_KEYS && f.1 ≠ lit "__proto__")

/-- A reference that came and is no UUID is kept beside the columns. -/
def destinationRefOf : Option JsString × Option JsonValue × List CdrLegCoercion :=
  match asUuid received, received with
  | some ref, _ => (some ref, none, [])
  | none, none => (none, none, [])
  | none, some .null => (none, none, [])
  | none, some value => (none, some value, [⟨lit "destinationRef", value, lit "null"⟩])

def rawOf (payload : JsonValue.Fields) (refRaw : Option JsonValue) (coercions : List CdrLegCoercion) :
    JsonValue.Fields :=
  let kept := refRaw.elim (unmapped payload) (assign (unmapped payload) "destinationRefRaw")
  if coercions.isEmpty then kept
  else assign kept "_writer" (.obj [(lit "coercions", .arr (coercions.map (·.json)))])

/-- The row of a payload whose id, partition key and call could be read. -/
def mapped (P : Platform) (organizationId : JsString) (payload : JsonValue.Fields)
    (id callId : JsString) (startedAt : Int) : CdrLegMappingResult :=
  let get (key : String) := payload.get? (lit key)
  let leg := coerce "leg" (get "leg") "a" .a ((asString (get "leg")).bind (member CallLegSide.named))
  let direction := coerce "direction" (get "direction") "inbound" .inbound
    ((asString (get "direction")).bind (member CallDirection.named))
  let destinationType := destinationTypeOf (get "destinationType")
  let hangupCause := hangupCauseOf (get "hangupCause")
  let hangupSide := hangupSideOf (get "hangupSide")
  -- a disposition that cannot be read must not be the one that bills
  let disposition := coerce "disposition" (get "disposition") "failed" .failed
    ((asString (get "disposition")).bind (member CallDisposition.named))
  let fromNumber := coerce "fromNumber" (get "fromNumber") "unknown" (lit "unknown")
    (asString (get "fromNumber"))
  let toNumber := coerce "toNumber" (get "toNumber") "unknown" (lit "unknown")
    (asString (get "toNumber"))
  let destinationRef := destinationRefOf (get "destinationRef")
  let coercions := leg.2 ++ direction.2 ++ destinationType.2 ++ hangupCause.2 ++ hangupSide.2 ++
    disposition.2 ++ fromNumber.2 ++ toNumber.2 ++ destinationRef.2.2
  { coercions
    values := {
      id, organizationId, callId, startedAt
      leg := leg.1
      originatingLegId := asUuid (get "originatingLegId")
      bridgeLegId := asUuid (get "bridgeLegId")
      direction := direction.1
      fromNumber := fromNumber.1.take 128
      fromName := (asString (get "fromName")).map (·.take 128)
      toNumber := toNumber.1.take 128
      destinationType := destinationType.1
      destinationRef := destinationRef.1
      answeredAt := asDate P (get "answeredAt")
      endedAt := asDate P (get "endedAt")
      durationMs := asNonNegativeInt (get "durationMs")
      billsecMs := asNonNegativeInt (get "billsecMs")
      hangupCause := hangupCause.1
      hangupCauseCode := hangupCauseCodeOf (get "hangupCauseCode")
      hangupSide := hangupSide.1
      disposition := disposition.1
      raw := rawOf payload destinationRef.2.1 coercions } }

/-- Maps a `cdr.leg.write` payload onto a row. Only the id, the partition key
and the call cannot be invented. -/
def mapCdrLegWrite (P : Platform) (organizationId : JsString) (payload : JsonValue.Fields) :
    Except JsError CdrLegMappingResult :=
  match asUuid (payload.get? (lit "id")) with
  | none => do
    let received ← P.string (payload.get? (lit "id"))
    throw (.ofMessage (lit "cdr.leg.write carries no usable id (received " ++ received ++ lit ")."))
  | some id =>
    match asDate P (payload.get? (lit "startedAt")) with
    | none => do
      let received ← P.string (payload.get? (lit "startedAt"))
      throw (.ofMessage (lit "cdr.leg.write " ++ id ++ lit " carries no usable startedAt (received " ++
        received ++ lit "); it is the partition key and cannot be defaulted."))
    | some startedAt =>
      match asUuid (payload.get? (lit "callId")) with
      | none => .error (.ofMessage (lit "cdr.leg.write " ++ id ++ lit " carries no usable callId."))
      | some callId => .ok (mapped P organizationId payload id callId startedAt)

theorem not_ok_of_throw {α : Type} {x : Except JsError JsString} {f : JsString → JsError} {a : α} :
    (do let s ← x; throw (f s) : Except JsError α) ≠ .ok a := by
  cases x <;> exact nofun

theorem mapCdrLegWrite_identity {P : Platform} {organizationId : JsString} {payload : JsonValue.Fields}
    {result : CdrLegMappingResult} (h : mapCdrLegWrite P organizationId payload = .ok result) :
    asUuid (payload.get? (lit "id")) = some result.values.id ∧
      result.values.organizationId = organizationId := by
  rw [mapCdrLegWrite] at h
  cases hid : asUuid (payload.get? (lit "id")) with
  | none =>
    rw [hid] at h
    exact absurd h not_ok_of_throw
  | some id =>
    rw [hid] at h
    cases hstart : asDate P (payload.get? (lit "startedAt")) with
    | none =>
      rw [hstart] at h
      exact absurd h not_ok_of_throw
    | some startedAt =>
      rw [hstart] at h
      cases hcall : asUuid (payload.get? (lit "callId")) with
      | none =>
        rw [hcall] at h
        cases h
      | some callId =>
        rw [hcall] at h
        cases h
        exact ⟨rfl, rfl⟩

end OptimiqVoice.Cdr

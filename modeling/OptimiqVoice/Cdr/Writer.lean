import OptimiqVoice.Cdr.LegMapping
import OptimiqVoice.Lib.Dict
import OptimiqVoice.Routing.Json

namespace OptimiqVoice.Cdr

open Lib

/-- A message as the handler is given it. The bytes are what
`JSON.parse(new TextDecoder().decode(data))` makes of them. -/
structure DurableMessage where
  subject : JsString
  data : Except JsError JsonValue
  (seq redeliveryCount : Nat)

structure CdrLegEnvelope where
  (type orgId subject : JsString)
  data : JsonValue.Fields

def envelopeOf (body : JsonValue) : Option CdrLegEnvelope := do
  let fields ← body.object?
  let type ← (fields.get? (lit "type")).bind JsonValue.text?
  let orgId ← (fields.get? (lit "orgId")).bind JsonValue.text?
  let subject ← (fields.get? (lit "subject")).bind JsonValue.text?
  let data ← (fields.get? (lit "data")).bind JsonValue.object?
  return ⟨type, orgId, subject, data⟩

variable (P : Platform)

/-- `cdrEventSchema.parse`: the shape, after every validator of the fields. -/
def cdrEventSchemaParse (body : JsonValue) : Except JsError CdrLegEnvelope :=
  match P.issues body with
  | some error => .error error
  | none => (envelopeOf body).elim (.error (.ofMessage (lit "Invalid input"))) .ok

inductive CdrQuarantineReason where
  | unreadable | foreignSubject | rejected | exhausted

structure QuarantineRow where
  organizationId : Option JsString
  (stream subject : JsString)
  streamSequence : Option Nat
  deliveryCount : Nat
  reason : CdrQuarantineReason
  detail : JsString
  payload : JsonValue.Fields

/-- A UUID column reads both cases and stores one. -/
def columnUuid (s : JsString) : JsString := s.map (fun u => if 65 ≤ u ∧ u ≤ 90 then u + 32 else u)

/-- What a `text` column takes: every text without the zero unit. -/
def textColumn (s : JsString) : Bool := 0 ∉ s

def pairedSurrogates : JsString → Bool
  | [] => true
  | [u] => !(Routing.isHighSurrogate u || Routing.isLowSurrogate u)
  | u :: v :: rest =>
    if Routing.isHighSurrogate u then Routing.isLowSurrogate v && pairedSurrogates rest
    else !Routing.isLowSurrogate u && pairedSurrogates (v :: rest)

/-- What a `jsonb` column takes: neither the zero unit nor half a pair, in any
text or key. -/
def jsonbColumn (value : JsonValue) : Bool :=
  value.allTexts (fun s => textColumn s && pairedSurrogates s)

def integerColumn (i : Int) : Bool := i ≤ 2147483647

def QuarantineRow.storable (row : QuarantineRow) : Bool :=
  textColumn row.subject && textColumn row.detail && jsonbColumn (.obj row.payload)

namespace CallLegInsertValues

variable (values : CallLegInsertValues)

def storable : Bool :=
  textColumn values.fromNumber && values.fromName.all textColumn && textColumn values.toNumber &&
    integerColumn values.durationMs && integerColumn values.billsecMs && jsonbColumn (.obj values.raw)

def stored : CallLegInsertValues :=
  { values with
    id := columnUuid values.id
    organizationId := columnUuid values.organizationId
    callId := columnUuid values.callId
    originatingLegId := values.originatingLegId.map columnUuid
    bridgeLegId := values.bridgeLegId.map columnUuid
    destinationRef := values.destinationRef.map columnUuid }

def key : JsString × Int := (values.id, values.startedAt)

end CallLegInsertValues

/-- The delivered body as an object. What is no object is wrapped as text. -/
def asJsonPayload (payload : Option JsonValue) : Except JsError JsonValue.Fields :=
  match payload with
  | some (.obj fields) => .ok fields
  | none => .ok [(lit "_nonObjectBody", .null)]
  | some value => do
    let text ← P.string (some value)
    return [(lit "_nonObjectBody", .str (text.take 8192))]

/-- What the handler was filing when it went to the database. -/
structure Filing where
  values : CallLegInsertValues
  body : JsonValue
  orgId : JsString

inductive Verdict where
  | ack
  | nak (millis : Nat)
  | term

/-- Where a call of `handle` stands: at a statement, or about to answer. -/
inductive Stage where
  | ensuring (filing : Filing)
  | inserting (filing : Filing)
  | quarantining (row : QuarantineRow)
  | answering (verdict : Verdict)

def MAX_DELIVER : Nat := 5

/-- `quarantine` up to its statement. The row is built inside the `try`, so a
body that has no text is logged and ends as a row that was refused does. -/
def quarantine (message : DurableMessage) (reason : CdrQuarantineReason)
    (detail : JsString) (payload : Option JsonValue) (organizationId : Option JsString) :
    Except JsError Stage :=
  tryCatch (do
      let payload ← asJsonPayload P payload
      return .quarantining {
        organizationId := organizationId.map columnUuid
        stream := lit "CDR"
        subject := message.subject
        streamSequence := some message.seq
        deliveryCount := max 1 message.redeliveryCount
        reason
        detail := detail.take 2048
        payload }) (fun _ => return .answering .term)

/-- The body and the envelope, or what was thrown and the body as far as there
is one. -/
def read (data : Except JsError JsonValue) :
    Except (JsError × Option JsonValue) (JsonValue × CdrLegEnvelope) :=
  match data with
  | .error error => .error (error, none)
  | .ok body =>
    match cdrEventSchemaParse P body with
    | .error error => .error (error, some body)
    | .ok envelope => .ok (body, envelope)

def subjectOrg (subject : JsString) : Option JsString := (split (unit '.') subject)[3]?

/-- What `handle` does with an envelope of its own type and subject. -/
def fileLeg (message : DurableMessage) (body : JsonValue) (envelope : CdrLegEnvelope) :
    Except JsError Stage :=
  if subjectOrg message.subject = some envelope.orgId then
    match mapCdrLegWrite P envelope.orgId envelope.data with
    | .error error =>
      quarantine P message .rejected (describeError error) body envelope.orgId
    | .ok result => .ok (.ensuring ⟨result.values, body, envelope.orgId⟩)
  else
    quarantine P message .foreignSubject
      (lit "subject organization " ++ (subjectOrg message.subject).getD (lit "undefined") ++
        lit " disagrees with envelope orgId " ++ envelope.orgId) body none

/-- `handle` up to its first statement, or to its answer. -/
def handle (message : DurableMessage) : Except JsError Stage :=
  match read P message.data with
  | .error (error, body) => quarantine P message .unreadable (describeError error) body none
  | .ok (body, envelope) =>
    if envelope.type ≠ lit "cdr.leg.write" then .ok (.answering .ack)
    else if envelope.subject ≠ message.subject then
      quarantine P message .foreignSubject
        (lit "envelope subject " ++ envelope.subject ++ lit " was delivered on " ++ message.subject)
        body envelope.orgId
    else fileLeg P message body envelope

/-- The `catch` around the two statements that file a leg. -/
def notFiled (message : DurableMessage) (filing : Filing) (error : JsError) :
    Except JsError Stage :=
  if isDeterministicDatabaseRejection error then
    quarantine P message .rejected (describeError error) filing.body filing.orgId
  else if MAX_DELIVER ≤ message.redeliveryCount then
    quarantine P message .exhausted (describeError error) filing.body filing.orgId
  else .ok (.answering (.nak (redeliveryDelayMs message.redeliveryCount)))

/-- How a statement ends. One that failed may have been carried out: the
connection can go between the commit and the reply. -/
inductive Reply where
  | done
  | failed (error : JsError) (applied : Bool)

namespace Reply

def applied : Reply → Bool
  | .done => true
  | .failed _ applied => applied

def result : Reply → Except JsError Unit
  | .done => .ok ()
  | .failed error _ => .error error

end Reply

/-- `handle` from the reply of a statement to its next one, or to its answer. -/
def resume (message : DurableMessage) (stage : Stage) (reply : Reply) : Except JsError Stage :=
  match stage with
  | .ensuring filing =>
    tryCatch (do reply.result; return .inserting filing) (notFiled P message filing)
  | .inserting filing =>
    tryCatch (do reply.result; return .answering .ack) (notFiled P message filing)
  | .quarantining _ => do
    -- a failure to record a failure is logged and goes no further
    tryCatch reply.result (fun _ => return ())
    return .answering .term
  | .answering verdict => .ok (.answering verdict)

structure Tables where
  legs : List CallLegInsertValues
  quarantine : List QuarantineRow

namespace Tables

/-- `insert … on conflict do nothing`: the primary key decides. -/
def insertLeg (t : Tables) (values : CallLegInsertValues) : Tables :=
  if t.legs.any (·.key = values.stored.key) then t else { t with legs := t.legs ++ [values.stored] }

def insertQuarantine (t : Tables) (row : QuarantineRow) : Tables :=
  { t with quarantine := t.quarantine ++ [row] }

/-- What the statement of a stage does to the tables when it is carried out. A
row that the columns refuse is not written. -/
def execute (t : Tables) (stage : Stage) (reply : Reply) : Option Tables :=
  match stage with
  | .ensuring _ => some t
  | .inserting filing =>
    if reply.applied then if filing.values.storable then some (t.insertLeg filing.values) else none
    else some t
  | .quarantining row =>
    if reply.applied then if row.storable then some (t.insertQuarantine row) else none
    else some t
  | .answering _ => none

end Tables

inductive Status where
  | pending | acked | terminated
deriving DecidableEq

structure Entry where
  subject : JsString
  data : Except JsError JsonValue
  deliveries : Nat
  status : Status

/-- What an answer makes of a message that is still to be answered. -/
def Entry.answer (e : Entry) (verdict : Verdict) : Entry :=
  match e.status, verdict with
  | .pending, .ack => { e with status := .acked }
  | .pending, .term => { e with status := .terminated }
  | _, _ => e

def Entry.message (e : Entry) (seq : Nat) : DurableMessage := ⟨e.subject, e.data, seq, e.deliveries⟩

structure Task where
  message : DurableMessage
  stage : Stage

/-- The stream's consumer, the database, and the processes that consume: each
handles one message at a time, and an exception ends its loop. -/
structure World where
  stream : Dict Nat Entry
  tables : Tables
  tasks : Dict Nat Task
  ended : List Nat

inductive Event where
  | publish (seq : Nat) (subject : JsString) (data : Except JsError JsonValue)
  /-- JetStream hands a message that has no answer to a process. -/
  | deliver (process seq : Nat)
  | reply (process : Nat) (reply : Reply)
  /-- A process answers, and the broker hears it or does not. -/
  | answer (process : Nat) (heard : Bool)
  /-- A process stops wherever it stands, and starts anew. -/
  | restart (process : Nat)

namespace World

def idle (w : World) (process : Nat) : Bool :=
  (w.tasks.get? process).isNone && process ∉ w.ended

def proceed (w : World) (process : Nat) (message : DurableMessage) (next : Except JsError Stage) :
    World :=
  match next with
  | .ok stage => { w with tasks := w.tasks.set process ⟨message, stage⟩ }
  | .error _ => { w with tasks := w.tasks.erase process, ended := process :: w.ended }

def step (w : World) : Event → Option World
  | .publish seq subject data =>
    if w.stream.has seq then none
    else some { w with stream := w.stream.set seq ⟨subject, data, 0, .pending⟩ }
  | .deliver process seq => do
    let e ← w.stream.get? seq
    guard (w.idle process && e.status = .pending)
    let e := { e with deliveries := e.deliveries + 1 }
    return proceed { w with stream := w.stream.set seq e } process (e.message seq)
      (handle P (e.message seq))
  | .reply process reply => do
    let task ← w.tasks.get? process
    let tables ← w.tables.execute task.stage reply
    return proceed { w with tables } process task.message (resume P task.message task.stage reply)
  | .answer process heard => do
    let ⟨message, .answering verdict⟩ ← w.tasks.get? process | none
    let w := { w with tasks := w.tasks.erase process }
    if heard then
      let e ← w.stream.get? message.seq
      return { w with stream := w.stream.set message.seq (e.answer verdict) }
    else return w
  | .restart process =>
    some { w with tasks := w.tasks.erase process, ended := w.ended.filter (· ≠ process) }

def start : World := ⟨.empty, ⟨[], []⟩, .empty, []⟩

end World

end OptimiqVoice.Cdr

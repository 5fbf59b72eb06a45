import OptimiqVoice.Cdr.Writer
import OptimiqVoice.Lib.Machine
import Mathlib.Tactic.SplitIfs

namespace OptimiqVoice.Cdr

open Lib

variable {P : Platform} {w w' : World} {t t' : Tables} {m : DurableMessage}

def LegWrite (P : Platform) (data : Except JsError JsonValue) (envelope : CdrLegEnvelope) : Prop :=
  ∃ body, read P data = .ok (body, envelope) ∧ envelope.type = lit "cdr.leg.write"

/-- The row has the leg's id and is under the organization that the subject names. -/
def FiledAs (subject : JsString) (envelope : CdrLegEnvelope) (row : CallLegInsertValues) : Prop :=
  (asUuid (envelope.data.get? (lit "id"))).map columnUuid = some row.id ∧
    (subjectOrg subject).map columnUuid = some row.organizationId

/-- The row is what the message maps to for the organization that its subject names. -/
def Becomes (P : Platform) (subject : JsString) (envelope : CdrLegEnvelope)
    (row : CallLegInsertValues) : Prop :=
  ∃ org result, subjectOrg subject = some org ∧
    mapCdrLegWrite P org envelope.data = .ok result ∧ row = result.values.stored

/-- The organization of a row of the quarantine is the one that the subject names. -/
def OwnOrg (subject : JsString) (row : QuarantineRow) : Prop :=
  ∀ org, row.organizationId = some org → (subjectOrg subject).map columnUuid = some org

/-- No record is lost or misfiled. -/
structure Filed (P : Platform) (w : World) : Prop where
  acked : ∀ seq e, w.stream.get? seq = some e → e.status = .acked →
    ∀ envelope, LegWrite P e.data envelope → ∃ row ∈ w.tables.legs, FiledAs e.subject envelope row
  terminated : ∀ seq e, w.stream.get? seq = some e → e.status = .terminated →
    ∃ row ∈ w.tables.quarantine, row.streamSequence = some seq
  deliverable : ∀ seq e process, w.stream.get? seq = some e → e.status = .pending →
    w.idle process → (w.step P (.deliver process seq)).isSome
  once : (w.tables.legs.map (·.key)).Nodup
  ownLegs : ∀ row ∈ w.tables.legs, ∃ seq e envelope, w.stream.get? seq = some e ∧
    LegWrite P e.data envelope ∧ Becomes P e.subject envelope row
  ownQuarantine : ∀ row ∈ w.tables.quarantine, ∃ seq e, row.streamSequence = some seq ∧
    w.stream.get? seq = some e ∧ OwnOrg e.subject row
  running : w.ended = []

def hasText (P : Platform) (data : Except JsError JsonValue) : Bool :=
  match read P data with
  | .error (_, some body) => (asJsonPayload P (some body)).isOk
  | _ => true

/-- An envelope that was published on a foreign subject names that subject's
organization. -/
def ownOrg (P : Platform) (subject : JsString) (data : Except JsError JsonValue) : Bool :=
  match read P data with
  | .ok (_, envelope) =>
    envelope.type ≠ lit "cdr.leg.write" || envelope.subject = subject ||
      subjectOrg subject = some envelope.orgId
  | .error _ => true

/-- The database carries out what it is told about the quarantine, and no other
organization has a row with the primary key of the one to be written. -/
def Tables.takes (t : Tables) (stage : Stage) (reply : Reply) : Bool :=
  match stage with
  | .inserting filing => t.legs.all (fun row =>
      row.key ≠ filing.values.stored.key ||
        row.organizationId = filing.values.stored.organizationId)
  | .quarantining _ => reply.applied
  | _ => true

/-- What the writer relies on in a step. -/
def World.kept (P : Platform) (w : World) : Event → Bool
  | .deliver _ seq => (w.stream.get? seq).all (fun e => hasText P e.data && ownOrg P e.subject e.data)
  | .reply process reply => (w.tasks.get? process).all (fun task => w.tables.takes task.stage reply)
  | _ => true

variable {envelope : CdrLegEnvelope}

section reading

theorem LegWrite.unique {data : Except JsError JsonValue} {other : CdrLegEnvelope}
    (h : LegWrite P data envelope) (h' : LegWrite P data other) : envelope = other := by
  obtain ⟨body, hread, _⟩ := h
  obtain ⟨body', hread', _⟩ := h'
  rw [hread] at hread'
  cases hread'
  rfl

theorem asJsonPayload_of_read {data : Except JsError JsonValue} {body : JsonValue}
    (h : read P data = .ok (body, envelope)) :
    ∃ fields, asJsonPayload P (some body) = .ok fields := by
  cases body with
  | obj fields => exact ⟨fields, rfl⟩
  | _ =>
    exfalso
    cases data with
    | error e => cases h
    | ok value =>
      simp only [read, cdrEventSchemaParse] at h
      cases hissues : P.issues value with
      | some e =>
        rw [hissues] at h
        cases h
      | none =>
        rw [hissues] at h
        cases henv : envelopeOf value with
        | none =>
          rw [henv] at h
          cases h
        | some env =>
          rw [henv] at h
          cases h
          simp [envelopeOf, JsonValue.object?] at henv

end reading

section stages

def Filing.Of (P : Platform) (m : DurableMessage) (filing : Filing) : Prop :=
  ∃ envelope result, read P m.data = .ok (filing.body, envelope) ∧
    envelope.type = lit "cdr.leg.write" ∧ subjectOrg m.subject = some envelope.orgId ∧
    filing.orgId = envelope.orgId ∧ mapCdrLegWrite P envelope.orgId envelope.data = .ok result ∧
    filing.values = result.values

/-- What holds of a message while its handler stands at a stage. An answer is
only given when the tables already hold what it stands for. -/
def Sound (P : Platform) (t : Tables) (m : DurableMessage) : Stage → Prop
  | .ensuring filing => filing.Of P m
  | .inserting filing => filing.Of P m
  | .quarantining row => row.streamSequence = some m.seq ∧ OwnOrg m.subject row
  | .answering .ack => ∀ envelope, LegWrite P m.data envelope →
      ∃ row ∈ t.legs, FiledAs m.subject envelope row
  | .answering .term => ∃ row ∈ t.quarantine, row.streamSequence = some m.seq
  | .answering (.nak _) => True

theorem Sound.grow {stage : Stage} (h : Sound P t m stage) (hlegs : t.legs ⊆ t'.legs)
    (hquarantine : t.quarantine ⊆ t'.quarantine) : Sound P t' m stage := by
  cases stage with
  | ensuring _ | inserting _ | quarantining _ => exact h
  | answering verdict =>
    cases verdict with
    | ack =>
      intro envelope henv
      obtain ⟨row, hrow, hfiled⟩ := h envelope henv
      exact ⟨row, hlegs hrow, hfiled⟩
    | nak millis => trivial
    | term =>
      obtain ⟨row, hrow, hseq⟩ := h
      exact ⟨row, hquarantine hrow, hseq⟩

theorem quarantine_sound {reason : CdrQuarantineReason} {detail : JsString} {payload : Option JsonValue}
    {organizationId : Option JsString} (hpayload : ∃ fields, asJsonPayload P payload = .ok fields)
    (horg : ∀ org, organizationId = some org → subjectOrg m.subject = some org) :
    ∃ stage, quarantine P m reason detail payload organizationId = .ok stage ∧ Sound P t m stage := by
  obtain ⟨fields, hfields⟩ := hpayload
  rw [quarantine, hfields]
  refine ⟨_, rfl, rfl, ?_⟩
  intro org hrow
  obtain ⟨own, hown, rfl⟩ := Option.map_eq_some_iff.mp hrow
  rw [horg own hown]
  rfl

theorem fileLeg_sound {body : JsonValue}
    (hread : read P m.data = .ok (body, envelope)) (htype : envelope.type = lit "cdr.leg.write") :
    ∃ stage, fileLeg P m body envelope = .ok stage ∧ Sound P t m stage := by
  have hpayload := asJsonPayload_of_read hread
  rw [fileLeg]
  by_cases horg : subjectOrg m.subject = some envelope.orgId
  · rw [if_pos horg]
    cases hmap : mapCdrLegWrite P envelope.orgId envelope.data with
    | error error => exact quarantine_sound hpayload fun org h => horg.trans h
    | ok result => exact ⟨_, rfl, envelope, result, hread, htype, horg, rfl, hmap, rfl⟩
  · rw [if_neg horg]
    exact quarantine_sound hpayload nofun

theorem handle_sound (htext : hasText P m.data) (hown : ownOrg P m.subject m.data) :
    ∃ stage, handle P m = .ok stage ∧ Sound P t m stage := by
  rw [handle]
  cases hread : read P m.data with
  | error failure =>
    obtain ⟨error, body⟩ := failure
    refine quarantine_sound ?_ nofun
    cases body with
    | none => exact ⟨_, rfl⟩
    | some body =>
      rw [hasText, hread] at htext
      change (asJsonPayload P (some body)).isOk = true at htext
      cases hpayload : asJsonPayload P (some body) with
      | error e =>
        rw [hpayload] at htext
        cases htext
      | ok fields => exact ⟨fields, rfl⟩
  | ok value =>
    obtain ⟨body, envelope⟩ := value
    simp only
    by_cases htype : envelope.type = lit "cdr.leg.write"
    · rw [if_neg (not_not_intro htype)]
      by_cases hsubject : envelope.subject = m.subject
      · rw [if_neg (not_not_intro hsubject)]
        exact fileLeg_sound hread htype
      · rw [if_pos hsubject]
        refine quarantine_sound (asJsonPayload_of_read hread) fun org h => ?_
        cases h
        simpa [ownOrg, hread, htype, hsubject] using hown
    · rw [if_pos htype]
      refine ⟨_, rfl, ?_⟩
      rintro other ⟨body', hread', htype'⟩
      rw [hread] at hread'
      cases hread'
      exact absurd htype' htype

theorem notFiled_sound {filing : Filing} (h : filing.Of P m) (error : JsError) :
    ∃ stage, notFiled P m filing error = .ok stage ∧ Sound P t m stage := by
  obtain ⟨envelope, result, hread, _, horg, hfiling, _⟩ := h
  have hown : ∀ org, some filing.orgId = some org → subjectOrg m.subject = some org := by
    intro org h
    rw [horg, ← hfiling, h]
  rw [notFiled]
  split_ifs
  · exact quarantine_sound (asJsonPayload_of_read hread) hown
  · exact quarantine_sound (asJsonPayload_of_read hread) hown
  · exact ⟨_, rfl, trivial⟩

end stages

section tables

variable {filing : Filing} {values : CallLegInsertValues} {stage : Stage} {reply : Reply}

theorem insertLeg_cases (t : Tables) (values : CallLegInsertValues) :
    (t.insertLeg values = { t with legs := t.legs ++ [values.stored] } ∧
      values.stored.key ∉ t.legs.map (·.key)) ∨
    (t.insertLeg values = t ∧ ∃ row ∈ t.legs, row.key = values.stored.key) := by
  rw [Tables.insertLeg]
  by_cases h : t.legs.any (·.key = values.stored.key)
  · rw [if_pos h]
    simp only [List.any_eq_true, decide_eq_true_eq] at h
    exact .inr ⟨rfl, h⟩
  · rw [if_neg h]
    refine .inl ⟨rfl, fun hmem => h ?_⟩
    obtain ⟨row, hrow, hkey⟩ := List.mem_map.mp hmem
    exact List.any_eq_true.mpr ⟨row, hrow, decide_eq_true hkey⟩

theorem Filing.Of.becomes (h : filing.Of P m) :
    ∃ envelope, LegWrite P m.data envelope ∧ Becomes P m.subject envelope filing.values.stored := by
  obtain ⟨envelope, result, hread, htype, horg, _, hmap, hvalues⟩ := h
  exact ⟨envelope, ⟨filing.body, hread, htype⟩, envelope.orgId, result, horg, hmap, by rw [hvalues]⟩

theorem Becomes.filedAs {subject : JsString} {row : CallLegInsertValues}
    (h : Becomes P subject envelope row) : FiledAs subject envelope row := by
  obtain ⟨org, result, horg, hmap, rfl⟩ := h
  obtain ⟨hid, hown⟩ := mapCdrLegWrite_identity hmap
  refine ⟨?_, ?_⟩
  · rw [hid]
    rfl
  · rw [horg, ← hown]
    rfl

theorem FiledAs.of_key {subject : JsString} {row other : CallLegInsertValues}
    (h : FiledAs subject envelope row) (hkey : other.key = row.key)
    (horg : other.organizationId = row.organizationId) : FiledAs subject envelope other := by
  have hid : other.id = row.id := congrArg Prod.fst hkey
  exact ⟨hid ▸ h.1, horg ▸ h.2⟩

theorem execute_cases (h : t.execute stage reply = some t') :
    t' = t ∨ (∃ filing, stage = .inserting filing ∧ t' = t.insertLeg filing.values) ∨
      ∃ row, stage = .quarantining row ∧ t' = t.insertQuarantine row := by
  cases stage with
  | ensuring filing =>
    cases h
    exact .inl rfl
  | inserting filing =>
    simp only [Tables.execute] at h
    split_ifs at h with happlied hstorable
    · cases h
      exact .inr (.inl ⟨filing, rfl, rfl⟩)
    · cases h
      exact .inl rfl
  | quarantining row =>
    simp only [Tables.execute] at h
    split_ifs at h with happlied hstorable
    · cases h
      exact .inr (.inr ⟨row, rfl, rfl⟩)
    · cases h
      exact .inl rfl
  | answering verdict => cases h

theorem execute_grows (h : t.execute stage reply = some t') :
    t.legs ⊆ t'.legs ∧ t.quarantine ⊆ t'.quarantine := by
  obtain rfl | ⟨filing, rfl, rfl⟩ | ⟨row, rfl, rfl⟩ := execute_cases h
  · exact ⟨.refl _, .refl _⟩
  · obtain ⟨heq, _⟩ | ⟨heq, _⟩ := insertLeg_cases t filing.values
    · rw [heq]
      exact ⟨List.subset_append_left _ _, .refl _⟩
    · rw [heq]
      exact ⟨.refl _, .refl _⟩
  · exact ⟨.refl _, List.subset_append_left _ _⟩

theorem filed_of_insert (h : filing.Of P m) (htakes : t.takes (.inserting filing) reply) :
    ∀ envelope, LegWrite P m.data envelope →
      ∃ row ∈ (t.insertLeg filing.values).legs, FiledAs m.subject envelope row := by
  intro envelope henv
  obtain ⟨own, hown, hbecomes⟩ := h.becomes
  obtain rfl := henv.unique hown
  obtain ⟨heq, _⟩ | ⟨heq, row, hrow, hkey⟩ := insertLeg_cases t filing.values
  · rw [heq]
    exact ⟨_, List.mem_append_right _ (List.mem_singleton_self _), hbecomes.filedAs⟩
  · rw [heq]
    have horg : row.organizationId = filing.values.stored.organizationId := by
      simpa [hkey] using List.all_eq_true.mp htakes row hrow
    exact ⟨row, hrow, hbecomes.filedAs.of_key hkey horg⟩

theorem resume_sound (h : Sound P t m stage) (htakes : t.takes stage reply)
    (hexec : t.execute stage reply = some t') :
    ∃ next, resume P m stage reply = .ok next ∧ Sound P t' m next := by
  cases stage with
  | ensuring filing =>
    cases reply with
    | done => exact ⟨_, rfl, h⟩
    | failed error applied => exact notFiled_sound h error
  | inserting filing =>
    cases reply with
    | done =>
      simp only [Tables.execute, Reply.applied, if_true] at hexec
      split_ifs at hexec with hstorable
      cases hexec
      exact ⟨_, rfl, filed_of_insert h htakes⟩
    | failed error applied => exact notFiled_sound h error
  | quarantining row =>
    simp only [Tables.execute, show reply.applied = true from htakes, if_true] at hexec
    split_ifs at hexec with hstorable
    cases hexec
    refine ⟨.answering .term, ?_, row, ?_, h.1⟩
    · cases reply <;> rfl
    · exact List.mem_append_right _ (List.mem_singleton_self _)
  | answering verdict => cases hexec

end tables

section runs

variable {stream : Dict Nat Entry} {stage : Stage} {reply : Reply} {process : Nat}

def InStream (stream : Dict Nat Entry) (m : DurableMessage) : Prop :=
  ∃ e, stream.get? m.seq = some e ∧ e.subject = m.subject ∧ e.data = m.data

/-- Every row is of a message of the stream and under the organization of that
message's subject, and no leg has two. -/
structure Tables.Own (P : Platform) (stream : Dict Nat Entry) (t : Tables) : Prop where
  once : (t.legs.map (·.key)).Nodup
  legs : ∀ row ∈ t.legs, ∃ seq e envelope, stream.get? seq = some e ∧
    LegWrite P e.data envelope ∧ Becomes P e.subject envelope row
  quarantine : ∀ row ∈ t.quarantine, ∃ seq e, row.streamSequence = some seq ∧
    stream.get? seq = some e ∧ OwnOrg e.subject row

/-- A message has the answer that the tables stand for. -/
def Earned (P : Platform) (t : Tables) (seq : Nat) (e : Entry) : Prop :=
  match e.status with
  | .pending => True
  | .acked => Sound P t (e.message seq) (.answering .ack)
  | .terminated => Sound P t (e.message seq) (.answering .term)

structure Inv (P : Platform) (w : World) : Prop where
  own : w.tables.Own P w.stream
  earned : ∀ seq e, w.stream.get? seq = some e → Earned P w.tables seq e
  tasks : ∀ process task, w.tasks.get? process = some task →
    InStream w.stream task.message ∧ Sound P w.tables task.message task.stage
  running : w.ended = []

def Keeps (stream stream' : Dict Nat Entry) : Prop :=
  ∀ seq e, stream.get? seq = some e →
    ∃ e', stream'.get? seq = some e' ∧ e'.subject = e.subject ∧ e'.data = e.data

variable {seq : Nat} {e : Entry}

theorem keeps_set
    (h : ∀ old, stream.get? seq = some old → e.subject = old.subject ∧ e.data = old.data) :
    Keeps stream (stream.set seq e) := by
  intro other old hold
  rw [Dict.get?_set]
  by_cases hseq : seq = other
  · subst hseq
    exact ⟨e, by simp, h old hold⟩
  · exact ⟨old, by simpa [hseq] using hold, rfl, rfl⟩

theorem Earned.grow (h : Earned P t seq e) (hlegs : t.legs ⊆ t'.legs)
    (hquarantine : t.quarantine ⊆ t'.quarantine) : Earned P t' seq e := by
  rw [Earned] at h ⊢
  cases hstatus : e.status with
  | pending => trivial
  | acked | terminated =>
    rw [hstatus] at h
    exact Sound.grow h hlegs hquarantine

theorem InStream.keep (h : InStream stream m) {stream' : Dict Nat Entry} (hkeep : Keeps stream stream') :
    InStream stream' m := by
  obtain ⟨e, he, hsubject, hdata⟩ := h
  obtain ⟨e', he', hsubject', hdata'⟩ := hkeep m.seq e he
  exact ⟨e', he', hsubject'.trans hsubject, hdata'.trans hdata⟩

theorem Tables.Own.keep (h : t.Own P stream) {stream' : Dict Nat Entry} (hkeep : Keeps stream stream') :
    t.Own P stream' := by
  refine ⟨h.once, fun row hrow => ?_, fun row hrow => ?_⟩
  · obtain ⟨seq, e, envelope, he, henv, hbecomes⟩ := h.legs row hrow
    obtain ⟨e', he', hsubject, hdata⟩ := hkeep seq e he
    exact ⟨seq, e', envelope, he', hdata ▸ henv, hsubject ▸ hbecomes⟩
  · obtain ⟨seq, e, hseq, he, hown⟩ := h.quarantine row hrow
    obtain ⟨e', he', hsubject, _⟩ := hkeep seq e he
    exact ⟨seq, e', hseq, he', hsubject ▸ hown⟩

theorem Tables.Own.execute (h : t.Own P stream) (hin : InStream stream m) (hs : Sound P t m stage)
    (hexec : t.execute stage reply = some t') : t'.Own P stream := by
  obtain ⟨e, he, hsubject, hdata⟩ := hin
  obtain rfl | ⟨filing, rfl, rfl⟩ | ⟨row, rfl, rfl⟩ := execute_cases hexec
  · exact h
  · obtain ⟨heq, hnew⟩ | ⟨heq, _⟩ := insertLeg_cases t filing.values
    · rw [heq]
      refine ⟨?_, fun row hrow => ?_, h.quarantine⟩
      · rw [List.map_append, List.map_singleton, List.nodup_append_comm]
        exact List.nodup_cons.mpr ⟨hnew, h.once⟩
      · obtain hold | hrow := List.mem_append.mp hrow
        · exact h.legs row hold
        · obtain rfl := List.mem_singleton.mp hrow
          obtain ⟨envelope, henv, hbecomes⟩ := Filing.Of.becomes hs
          exact ⟨m.seq, e, envelope, he, hdata ▸ henv, hsubject ▸ hbecomes⟩
    · rw [heq]
      exact h
  · refine ⟨h.once, h.legs, fun other hother => ?_⟩
    obtain hold | hother := List.mem_append.mp hother
    · exact h.quarantine other hold
    · obtain rfl := List.mem_singleton.mp hother
      exact ⟨m.seq, e, hs.1, he, hsubject ▸ hs.2⟩

section

variable (h : Inv P w)

include h

theorem Inv.restream (hkeep : Keeps w.stream stream)
    (hearned : ∀ seq e, stream.get? seq = some e → Earned P w.tables seq e) :
    Inv P { w with stream } where
  own := h.own.keep hkeep
  earned := hearned
  tasks process task htask := ⟨(h.tasks process task htask).1.keep hkeep, (h.tasks process task htask).2⟩
  running := h.running

theorem Inv.set
    (hsame : ∀ old, w.stream.get? seq = some old → e.subject = old.subject ∧ e.data = old.data)
    (he : Earned P w.tables seq e) : Inv P { w with stream := w.stream.set seq e } := by
  refine h.restream (keeps_set hsame) fun other e' he' => ?_
  rw [Dict.get?_set] at he'
  split_ifs at he' with hseq
  · cases he'
    exact hseq ▸ he
  · exact h.earned other e' he'

theorem Inv.setTask (hin : InStream w.stream m) (hs : Sound P w.tables m stage) :
    Inv P (w.proceed process m (.ok stage)) where
  __ := h
  tasks other task htask := by
    rw [World.proceed, Dict.get?_set] at htask
    split_ifs at htask
    · cases htask
      exact ⟨hin, hs⟩
    · exact h.tasks other task htask

theorem Inv.eraseTask : Inv P { w with tasks := w.tasks.erase process } where
  __ := h
  tasks other task htask := by
    rw [Dict.get?_erase] at htask
    split_ifs at htask
    exact h.tasks other task htask

theorem Inv.execute {task : Task} (htask : w.tasks.get? process = some task)
    (hexec : w.tables.execute task.stage reply = some t') : Inv P { w with tables := t' } where
  own := h.own.execute (h.tasks process task htask).1 (h.tasks process task htask).2 hexec
  earned seq e he := (h.earned seq e he).grow (execute_grows hexec).1 (execute_grows hexec).2
  tasks other task' htask' := by
    obtain ⟨hin, hs⟩ := h.tasks other task' htask'
    exact ⟨hin, hs.grow (execute_grows hexec).1 (execute_grows hexec).2⟩
  running := h.running

theorem Inv.delivered (hkept : w.kept P (.deliver process seq))
    (hstep : w.step P (.deliver process seq) = some w') : Inv P w' := by
  simp only [World.step, Option.bind_eq_bind, Option.bind_eq_some_iff] at hstep
  obtain ⟨e, he, _, hguard, hproceed⟩ := hstep
  have hpending : e.status = .pending := by
    by_contra hne
    simp [hne] at hguard
  rw [World.kept, he, Option.all_some, Bool.and_eq_true] at hkept
  let e' : Entry := { e with deliveries := e.deliveries + 1 }
  have hset : Inv P { w with stream := w.stream.set seq e' } := by
    refine h.set (fun old hold => ?_) ?_
    · cases he.symm.trans hold
      exact ⟨rfl, rfl⟩
    · rw [Earned, show e'.status = .pending from hpending]
      trivial
  obtain ⟨stage, hhandle, hsound⟩ :=
    handle_sound (m := e'.message seq) (t := w.tables) hkept.1 hkept.2
  cases hproceed
  rw [hhandle]
  exact hset.setTask ⟨e', by simp [Entry.message], rfl, rfl⟩ hsound

theorem Inv.replied (hkept : w.kept P (.reply process reply))
    (hstep : w.step P (.reply process reply) = some w') : Inv P w' := by
  simp only [World.step, Option.bind_eq_bind, Option.bind_eq_some_iff] at hstep
  obtain ⟨task, htask, tables, hexec, hproceed⟩ := hstep
  rw [World.kept, htask, Option.all_some] at hkept
  obtain ⟨hin, hs⟩ := h.tasks process task htask
  obtain ⟨next, hresume, hnext⟩ := resume_sound hs hkept hexec
  cases hproceed
  rw [hresume]
  exact (h.execute htask hexec).setTask hin hnext

end

theorem Earned.answer {verdict : Verdict} (h : Earned P t m.seq e)
    (hsubject : e.subject = m.subject) (hdata : e.data = m.data)
    (hs : Sound P t m (.answering verdict)) : Earned P t m.seq (e.answer verdict) := by
  obtain ⟨subject, data, deliveries, status⟩ := e
  cases hsubject
  cases hdata
  cases status with
  | pending => cases verdict <;> exact hs
  | acked | terminated => exact h

theorem Entry.answer_same (e : Entry) (verdict : Verdict) :
    (e.answer verdict).subject = e.subject ∧ (e.answer verdict).data = e.data := by
  obtain ⟨subject, data, deliveries, status⟩ := e
  cases status <;> cases verdict <;> exact ⟨rfl, rfl⟩

theorem Inv.answered (h : Inv P w) {heard : Bool}
    (hstep : w.step P (.answer process heard) = some w') : Inv P w' := by
  cases htask : w.tasks.get? process with
  | none => simp [World.step, htask] at hstep
  | some task =>
    obtain ⟨m, stage⟩ := task
    obtain ⟨⟨e, he, hsubject, hdata⟩, hs⟩ := h.tasks process _ htask
    cases stage with
    | answering verdict =>
      cases heard with
      | false =>
        simp only [World.step, htask] at hstep
        cases hstep
        exact h.eraseTask
      | true =>
        have hw : w' = { w with
            tasks := w.tasks.erase process
            stream := w.stream.set m.seq (e.answer verdict) } := by
          simpa [World.step, htask, he] using hstep.symm
        rw [hw]
        refine h.eraseTask.set (fun old hold => ?_) ((h.earned m.seq e he).answer hsubject hdata hs)
        cases he.symm.trans hold
        exact e.answer_same verdict
    | _ => simp [World.step, htask] at hstep

theorem Inv.step {e : Event} (hkept : w.kept P e) (h : Inv P w) (hstep : w.step P e = some w') :
    Inv P w' := by
  cases e with
  | publish seq subject data =>
    simp only [World.step] at hstep
    split_ifs at hstep with hhas
    cases hstep
    refine h.set (fun old hold => ?_) trivial
    simp [Dict.has, hold] at hhas
  | deliver process seq => exact h.delivered hkept hstep
  | reply process reply => exact h.replied hkept hstep
  | answer process heard => exact h.answered hstep
  | restart process =>
    cases hstep
    have herased : Inv P { w with tasks := w.tasks.erase process } := h.eraseTask
    obtain ⟨own, earned, tasks, running⟩ := herased
    exact ⟨own, earned, tasks, by rw [h.running]; rfl⟩

theorem inv_start : Inv P World.start where
  own := ⟨List.nodup_nil, fun row hrow => absurd hrow List.not_mem_nil, fun row hrow => absurd hrow List.not_mem_nil⟩
  earned seq e he := by simp [World.start] at he
  tasks process task htask := by simp [World.start] at htask
  running := rfl

theorem Inv.filed (h : Inv P w) : Filed P w where
  acked seq e he hstatus envelope henv := by
    have hearned := h.earned seq e he
    rw [Earned, hstatus] at hearned
    exact hearned envelope henv
  terminated seq e he hstatus := by
    have hearned := h.earned seq e he
    rw [Earned, hstatus] at hearned
    exact hearned
  deliverable seq e process he hstatus hidle := by
    simp [World.step, he, hstatus, hidle]
  once := h.own.once
  ownLegs := h.own.legs
  ownQuarantine := h.own.quarantine
  running := h.running

end runs

/-- In every run whose quarantine statements are all carried out, in which no
body defeats `String`, no foreign envelope names a third organization and no
leg has the primary key of another organization's row, no record is lost or
misfiled. -/
theorem filed_of_run (P : Platform) (events : List Event) (w : World)
    (hkept : Meets (World.step P) (fun w e => w.kept P e) World.start events)
    (hrun : run (World.step P) World.start events = some w) : Filed P w :=
  (run_keeps_of (Inv P) (fun _ _ _ hC hI hstep => hI.step hC hstep) hkept inv_start hrun).filed

section samples

def samplePlatform : Platform where
  numText n := n.finite?.elim (lit "NaN") (fun q => intText (JsNumber.trunc q))
  parseDate s := if s = lit "2026-08-05T10:00:00.000Z" then some 1785924000000 else none
  issues _ := none

def sampleOrg : String := "0198f000-0000-7000-8000-0000000000aa"

def sampleLeg (fromName : JsString) : JsonValue :=
  .obj [(lit "id", .str (lit "0198f000-0000-7000-8000-000000000001")),
    (lit "callId", .str (lit "0198f000-0000-7000-8000-000000000002")),
    (lit "leg", .str (lit "a")), (lit "direction", .str (lit "inbound")),
    (lit "fromNumber", .str (lit "+15550100")), (lit "fromName", .str fromName),
    (lit "toNumber", .str (lit "100")), (lit "destinationType", .str (lit "extension")),
    (lit "startedAt", .str (lit "2026-08-05T10:00:00.000Z")),
    (lit "durationMs", .num (.finite 1200)), (lit "billsecMs", .num (.finite 0)),
    (lit "hangupCause", .str (lit "NORMAL_CLEARING")), (lit "hangupCauseCode", .num (.finite 16)),
    (lit "disposition", .str (lit "no-answer"))]

def sampleSubject : JsString := lit "cdr.leg.v1." ++ lit sampleOrg

def sampleBody (fromName : JsString) : JsonValue :=
  .obj [(lit "id", .str (lit "0198f000-0000-7000-8000-000000000003")),
    (lit "at", .str (lit "2026-08-05T10:00:02.000Z")), (lit "orgId", .str (lit sampleOrg)),
    (lit "subject", .str sampleSubject), (lit "type", .str (lit "cdr.leg.write")),
    (lit "source", .str (lit "engine")), (lit "data", sampleLeg fromName)]

def refusal (code : String) : Reply :=
  .failed ⟨[⟨some (lit "Failed query"), none⟩, ⟨some (lit "refused"), some (lit code)⟩], lit "Error"⟩ false

/-- A leg whose first insert is lost with the connection and whose second
handler dies before it answers, beside a message that is no JSON. -/
def restartedRun : List Event :=
  [.publish 1 sampleSubject (.ok (sampleBody (lit "Ada"))),
    .publish 2 sampleSubject (.error (.ofMessage (lit "Unexpected token"))),
    .deliver 0 1, .reply 0 .done, .reply 0 (refusal "08006"), .answer 0 true,
    .deliver 0 1, .reply 0 .done, .reply 0 .done, .restart 0,
    .deliver 0 2, .reply 0 .done, .answer 0 true,
    .deliver 0 1, .reply 0 .done, .reply 0 .done, .answer 0 true]

def settled (w : World) : Bool :=
  w.stream.values.map (·.status) = [.acked, .terminated] && w.tables.legs.length = 1

theorem filed_restartedRun :
    ∃ w, run (World.step samplePlatform) World.start restartedRun = some w ∧ settled w ∧
      Filed samplePlatform w := by
  have hrun : (run (World.step samplePlatform) World.start restartedRun).any settled = true := by
    decide +kernel
  have hchecks : checks (World.step samplePlatform) (fun w e => w.kept samplePlatform e) World.start
      restartedRun = true := by decide
  obtain ⟨w, hw, hsettled⟩ := (Option.any_eq_true _ _).mp hrun
  exact ⟨w, hw, hsettled, filed_of_run samplePlatform restartedRun w (meets_of_checks (fun _ _ h => h) hchecks) hw⟩

/-- The caller's name holds the zero unit, which no column takes: `call_legs`
refuses the leg, the quarantine refuses its payload, and the message is
terminated all the same. -/
def refusedRun : List Event :=
  [.publish 1 sampleSubject (.ok (sampleBody [0])), .deliver 0 1, .reply 0 .done,
    .reply 0 (refusal "22021"), .reply 0 (refusal "22P05"), .answer 0 true]

def lost (w : World) : Bool :=
  (w.stream.get? 1).any (·.status = .terminated) && w.tables.quarantine.isEmpty &&
    w.tables.legs.isEmpty

/-- The database is up throughout, and could have carried out neither insert. -/
theorem leg_lost :
    (∃ w, run (World.step samplePlatform) World.start refusedRun = some w ∧ ¬Filed samplePlatform w) ∧
      run (World.step samplePlatform) World.start (refusedRun.take 3 ++ [.reply 0 .done]) = none ∧
      run (World.step samplePlatform) World.start (refusedRun.take 4 ++ [.reply 0 .done]) = none := by
  have hrun : (run (World.step samplePlatform) World.start refusedRun).any lost = true := by
    decide +kernel
  have hinsert : (run (World.step samplePlatform) World.start
      (refusedRun.take 3 ++ [.reply 0 .done])).isNone = true := by decide +kernel
  have hquarantine : (run (World.step samplePlatform) World.start
      (refusedRun.take 4 ++ [.reply 0 .done])).isNone = true := by decide +kernel
  refine ⟨?_, Option.isNone_iff_eq_none.mp hinsert, Option.isNone_iff_eq_none.mp hquarantine⟩
  obtain ⟨w, hw, hlost⟩ := (Option.any_eq_true _ _).mp hrun
  refine ⟨w, hw, fun hfiled => ?_⟩
  simp only [lost, Bool.and_eq_true, Option.any_eq_true, decide_eq_true_eq, List.isEmpty_iff] at hlost
  obtain ⟨⟨⟨e, he, hstatus⟩, hempty⟩, _⟩ := hlost
  obtain ⟨row, hrow, _⟩ := hfiled.terminated 1 e he hstatus
  rw [hempty] at hrow
  exact absurd hrow List.not_mem_nil

end samples

end OptimiqVoice.Cdr

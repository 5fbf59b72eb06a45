import OptimiqVoice.Lib.Text
import OptimiqVoice.Lib.Topic

namespace OptimiqVoice.Events

open Lib

/-- The text of one of the two contract packages: how a character of its source is
written, and what it takes for a subject token and for an event name. A token is
not empty, has no dot and is no wildcard; an event name is made of tokens. -/
structure Script (α : Type) [DecidableEq α] where
  char : Char → α
  isSubjectToken : List α → Bool
  isEventName : List α → Bool
  char_inj : ∀ c c' : Char, c.toNat < 128 → c'.toNat < 128 → char c = char c' → c = c'
  token_whole : ∀ t, isSubjectToken t = true → char '.' ∉ t
  token_literal : ∀ t, isSubjectToken t = true → t ≠ [char '*'] ∧ t ≠ [char '>']
  event_tokens : ∀ e, isEventName e = true → ∀ t ∈ e.splitOn (char '.'), isSubjectToken t = true

/-- The families whose subjects name an entity and an event, and the families
with one subject for each organization. -/
inductive EntityFamily
  | call
  | registration
  | queue
  | voicemail
  | media

inductive OrgFamily
  | cdrLeg
  | audit
  | provision

/-- What a value was going to be in a subject. -/
inductive Role
  | orgId
  | callId
  | aorHash
  | queueId
  | mailboxId
  | sessionId
  | event

structure SubjectTokenError (α : Type) where
  role : Role
  value : List α

def EntityFamily.root : EntityFamily → String
  | .call => "calls.evt.v1"
  | .registration => "sip.reg.v1"
  | .queue => "queue.evt.v1"
  | .voicemail => "voicemail.evt.v1"
  | .media => "media.evt.v1"

def EntityFamily.role : EntityFamily → Role
  | .call => .callId
  | .registration => .aorHash
  | .queue => .queueId
  | .voicemail => .mailboxId
  | .media => .sessionId

def OrgFamily.root : OrgFamily → String
  | .cdrLeg => "cdr.leg.v1"
  | .audit => "audit.evt.v1"
  | .provision => "provision.evt.v1"

namespace Script

variable {α : Type} [DecidableEq α] (T : Script α)

def lit (s : String) : List α := s.toList.map T.char

def dot : α := T.char '.'

def assertToken (role : Role) (value : List α) : Except (SubjectTokenError α) (List α) :=
  if T.isSubjectToken value then .ok value else .error ⟨role, value⟩

def assertEvent (value : List α) : Except (SubjectTokenError α) (List α) :=
  if T.isEventName value then .ok value else .error ⟨.event, value⟩

def entitySubject (f : EntityFamily) (orgId entityId event : List α) : Except (SubjectTokenError α) (List α) := do
  let org ← T.assertToken .orgId orgId
  let entity ← T.assertToken f.role entityId
  let name ← T.assertEvent event
  return T.lit f.root ++ T.dot :: org ++ T.dot :: entity ++ T.dot :: name

def orgSubject (f : OrgFamily) (orgId : List α) : Except (SubjectTokenError α) (List α) := do
  let org ← T.assertToken .orgId orgId
  return T.lit f.root ++ T.dot :: org

def familyFilter (f : EntityFamily) : List α := T.lit f.root ++ T.dot :: T.lit ">"

def inOrgFilter (f : EntityFamily) (orgId : List α) : Except (SubjectTokenError α) (List α) := do
  let org ← T.assertToken .orgId orgId
  return T.lit f.root ++ T.dot :: org ++ T.dot :: T.lit ">"

def entityFilter (f : EntityFamily) (orgId entityId : List α) : Except (SubjectTokenError α) (List α) := do
  let org ← T.assertToken .orgId orgId
  let entity ← T.assertToken f.role entityId
  return T.lit f.root ++ T.dot :: org ++ T.dot :: entity ++ T.dot :: T.lit ">"

def eventInOrgFilter (f : EntityFamily) (orgId event : List α) : Except (SubjectTokenError α) (List α) := do
  let org ← T.assertToken .orgId orgId
  let name ← T.assertEvent event
  return T.lit f.root ++ T.dot :: org ++ T.dot :: T.lit "*" ++ T.dot :: name

def anyOrgFilter (f : OrgFamily) : List α := T.lit f.root ++ T.dot :: T.lit "*"

namespace subjectFor

def call := T.entitySubject .call
def registration := T.entitySubject .registration
def queue := T.entitySubject .queue
def voicemail := T.entitySubject .voicemail
def media := T.entitySubject .media
def cdrLeg := T.orgSubject .cdrLeg
def audit := T.orgSubject .audit
def provision := T.orgSubject .provision

end subjectFor

namespace subjectFilterFor

def allCalls := T.familyFilter .call
def callsInOrg := T.inOrgFilter .call
def call := T.entityFilter .call
def callEventInOrg := T.eventInOrgFilter .call

/-- One event name in every organization; no other family has this filter. -/
def callEvent (event : List α) : Except (SubjectTokenError α) (List α) := do
  let name ← T.assertEvent event
  return T.lit EntityFamily.call.root ++ T.dot :: T.lit "*" ++ T.dot :: T.lit "*" ++ T.dot :: name

def allRegistrations := T.familyFilter .registration
def registrationsInOrg := T.inOrgFilter .registration
def registrationsForAor := T.entityFilter .registration
def registrationEventInOrg := T.eventInOrgFilter .registration
def allQueues := T.familyFilter .queue
def queuesInOrg := T.inOrgFilter .queue
def queue := T.entityFilter .queue
def queueEventInOrg := T.eventInOrgFilter .queue
def allVoicemail := T.familyFilter .voicemail
def voicemailInOrg := T.inOrgFilter .voicemail
def voicemailBox := T.entityFilter .voicemail
def voicemailEventInOrg := T.eventInOrgFilter .voicemail
def allMedia := T.familyFilter .media
def mediaInOrg := T.inOrgFilter .media
def mediaSession := T.entityFilter .media
def mediaEventInOrg := T.eventInOrgFilter .media
def allCdrLegs := T.anyOrgFilter .cdrLeg
def cdrLegsInOrg := subjectFor.cdrLeg T
def allAudit := T.anyOrgFilter .audit
def auditInOrg := subjectFor.audit T
def allProvision := T.anyOrgFilter .provision
def provisionInOrg := subjectFor.provision T

end subjectFilterFor

def matchesSubject (filter subject : List α) : Bool :=
  matchTokens (T.lit "*") (T.lit ">") (filter.splitOn T.dot) (subject.splitOn T.dot)

end Script

/-- The calls of the publish builders. -/
inductive Publish (α : Type)
  | entity (f : EntityFamily) (orgId entityId event : List α)
  | org (f : OrgFamily) (orgId : List α)

/-- The calls of the filter builders. -/
inductive Filter (α : Type)
  | all (f : EntityFamily)
  | inOrg (f : EntityFamily) (orgId : List α)
  | entity (f : EntityFamily) (orgId entityId : List α)
  | eventInOrg (f : EntityFamily) (orgId event : List α)
  | callEvent (event : List α)
  | allOrgs (f : OrgFamily)
  | org (f : OrgFamily) (orgId : List α)

section builders

open Script

variable {α : Type} [DecidableEq α] (T : Script α)

def Publish.build : Publish α → Except (SubjectTokenError α) (List α)
  | .entity .call orgId callId event => subjectFor.call T orgId callId event
  | .entity .registration orgId aorHash event => subjectFor.registration T orgId aorHash event
  | .entity .queue orgId queueId event => subjectFor.queue T orgId queueId event
  | .entity .voicemail orgId mailboxId event => subjectFor.voicemail T orgId mailboxId event
  | .entity .media orgId sessionId event => subjectFor.media T orgId sessionId event
  | .org .cdrLeg orgId => subjectFor.cdrLeg T orgId
  | .org .audit orgId => subjectFor.audit T orgId
  | .org .provision orgId => subjectFor.provision T orgId

def Filter.build : Filter α → Except (SubjectTokenError α) (List α)
  | .all .call => .ok (subjectFilterFor.allCalls T)
  | .all .registration => .ok (subjectFilterFor.allRegistrations T)
  | .all .queue => .ok (subjectFilterFor.allQueues T)
  | .all .voicemail => .ok (subjectFilterFor.allVoicemail T)
  | .all .media => .ok (subjectFilterFor.allMedia T)
  | .inOrg .call orgId => subjectFilterFor.callsInOrg T orgId
  | .inOrg .registration orgId => subjectFilterFor.registrationsInOrg T orgId
  | .inOrg .queue orgId => subjectFilterFor.queuesInOrg T orgId
  | .inOrg .voicemail orgId => subjectFilterFor.voicemailInOrg T orgId
  | .inOrg .media orgId => subjectFilterFor.mediaInOrg T orgId
  | .entity .call orgId callId => subjectFilterFor.call T orgId callId
  | .entity .registration orgId aorHash => subjectFilterFor.registrationsForAor T orgId aorHash
  | .entity .queue orgId queueId => subjectFilterFor.queue T orgId queueId
  | .entity .voicemail orgId mailboxId => subjectFilterFor.voicemailBox T orgId mailboxId
  | .entity .media orgId sessionId => subjectFilterFor.mediaSession T orgId sessionId
  | .eventInOrg .call orgId event => subjectFilterFor.callEventInOrg T orgId event
  | .eventInOrg .registration orgId event => subjectFilterFor.registrationEventInOrg T orgId event
  | .eventInOrg .queue orgId event => subjectFilterFor.queueEventInOrg T orgId event
  | .eventInOrg .voicemail orgId event => subjectFilterFor.voicemailEventInOrg T orgId event
  | .eventInOrg .media orgId event => subjectFilterFor.mediaEventInOrg T orgId event
  | .callEvent event => subjectFilterFor.callEvent T event
  | .allOrgs .cdrLeg => .ok (subjectFilterFor.allCdrLegs T)
  | .allOrgs .audit => .ok (subjectFilterFor.allAudit T)
  | .allOrgs .provision => .ok (subjectFilterFor.allProvision T)
  | .org .cdrLeg orgId => subjectFilterFor.cdrLegsInOrg T orgId
  | .org .audit orgId => subjectFilterFor.auditInOrg T orgId
  | .org .provision orgId => subjectFilterFor.provisionInOrg T orgId

end builders

section typescript

def isTokenUnit (u : CodeUnit) : Bool :=
  (unit 'A' ≤ u && u ≤ unit 'Z') || (unit 'a' ≤ u && u ≤ unit 'z') || (unit '0' ≤ u && u ≤ unit '9') ||
    u == unit '_' || u == unit '-'

def tokenPattern (value : JsString) : Bool := !value.isEmpty && value.all isTokenUnit

/-- `EVENT_PATTERN`, read from the left: whether the token read last has a letter. -/
def eventPattern (begun : Bool) : JsString → Bool
  | [] => begun
  | u :: rest =>
    if isTokenUnit u then eventPattern true rest
    else if u = unit '.' ∧ begun = true then eventPattern false rest
    else false

theorem tokenPattern_of_eventPattern {begun : Bool} {value : JsString}
    (h : eventPattern begun value = true) :
    ∃ first others, value.splitOn (unit '.') = first :: others ∧
      (first.all isTokenUnit = true ∧ (begun = false → first ≠ [])) ∧
      ∀ t ∈ others, tokenPattern t = true := by
  induction value generalizing begun with
  | nil =>
    refine ⟨[], [], rfl, ⟨rfl, ?_⟩, by simp⟩
    rintro rfl
    cases h
  | cons u value ih =>
    rw [eventPattern] at h
    rw [List.splitOn_cons_eq_if_modifyHead]
    by_cases hu : isTokenUnit u
    · -- a letter goes to the first token
      rw [if_pos hu] at h
      obtain ⟨first, others, hsplit, hfirst, hothers⟩ := ih h
      have hdot : (u == unit '.') = false := by
        apply beq_false_of_ne
        rintro rfl
        exact absurd hu (by decide)
      refine ⟨u :: first, others, by simp [hdot, hsplit], ⟨?_, by simp⟩, hothers⟩
      simp [hu, hfirst.1]
    · rw [if_neg hu] at h
      split_ifs at h with hdot
      obtain ⟨rfl, rfl⟩ := hdot
      obtain ⟨first, others, hsplit, hfirst, hothers⟩ := ih h
      refine ⟨[], first :: others, by simp [hsplit], by simp, ?_⟩
      intro t ht
      obtain rfl | ht := List.mem_cons.mp ht
      · simpa [tokenPattern, hfirst.1] using hfirst.2 rfl
      · exact hothers t ht

theorem unit_inj {c c' : Char} (h : c.toNat < 128) (h' : c'.toNat < 128) (heq : unit c = unit c') :
    c = c' := by
  have hval : c.toNat % 65536 = c'.toNat % 65536 := congrArg Fin.val heq
  apply Char.toNat_inj.mp
  omega

def typescript : Script CodeUnit where
  char := unit
  isSubjectToken := tokenPattern
  isEventName := eventPattern false
  char_inj _ _ := unit_inj
  token_whole t h hdot := by
    simp only [tokenPattern, Bool.and_eq_true, List.all_eq_true] at h
    exact absurd (h.2 _ hdot) (by decide)
  token_literal t h := by
    constructor
    · rintro rfl
      exact absurd h (by decide)
    · rintro rfl
      exact absurd h (by decide)
  event_tokens e h t ht := by
    obtain ⟨first, others, hsplit, hfirst, hothers⟩ := tokenPattern_of_eventPattern h
    rw [hsplit] at ht
    obtain rfl | ht := List.mem_cons.mp ht
    · simpa [tokenPattern, hfirst.1] using hfirst.2 rfl
    · exact hothers t ht

end typescript

section golang

abbrev GoBytes := List UInt8

def byte (c : Char) : UInt8 := UInt8.ofNat c.toNat

def isTokenByte (c : UInt8) : Bool :=
  c == byte '-' || c == byte '_' || (c ≥ byte '0' && c ≤ byte '9') || (c ≥ byte 'A' && c ≤ byte 'Z') ||
    (c ≥ byte 'a' && c ≤ byte 'z')

def isSubjectToken (value : GoBytes) : Bool := if value = [] then false else value.all isTokenByte

def isEventName (value : GoBytes) : Bool :=
  if value = [] then false else (value.splitOn (byte '.')).all isSubjectToken

theorem byte_inj {c c' : Char} (h : c.toNat < 128) (h' : c'.toNat < 128) (heq : byte c = byte c') :
    c = c' := by
  have hval : c.toNat % 256 = c'.toNat % 256 := by
    simpa [byte] using congrArg UInt8.toNat heq
  apply Char.toNat_inj.mp
  omega

def golang : Script UInt8 where
  char := byte
  isSubjectToken := isSubjectToken
  isEventName := isEventName
  char_inj _ _ := byte_inj
  token_whole t h hdot := by
    rw [isSubjectToken] at h
    split_ifs at h
    exact absurd (List.all_eq_true.mp h _ hdot) (by decide)
  token_literal t h := by
    constructor
    · rintro rfl
      exact absurd h (by decide)
    · rintro rfl
      exact absurd h (by decide)
  event_tokens e h t ht := by
    rw [isEventName] at h
    split_ifs at h
    exact List.all_eq_true.mp h t ht

end golang

end OptimiqVoice.Events

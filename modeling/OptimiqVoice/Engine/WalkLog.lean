import OptimiqVoice.Engine.Ports

namespace OptimiqVoice.Engine

open Lib Telephony

namespace Request

/-- A command to the walked leg, an offer of it to an agent, or one more phone
rung for it. -/
def isCommand : Request → Bool
  | .verb _ | .startMusicOnHold _ | .stopMusicOnHold | .record _ | .createBridge _
  | .addToBridge _ _ | .park _ | .unpark _ _ | .pickup _ _ | .reserveAgent _ _ _
  | .claim _ _ _ | .originate _ _ => true
  | _ => false

/-- A step of ringing somebody: placing a leg, or waiting for the legs placed. -/
def isDialing : Request → Bool
  | .claim _ _ _ | .originate _ _ | .awaitLegs _ => true
  | _ => false

def isMark : Request → Bool
  | .check _ | .enter _ => true
  | _ => false

def isCheck : Request → Bool
  | .check _ => true
  | _ => false

def room : Request → Option JsString
  | .joinConference id _ _ _ | .leaveConference id | .leaveOnEnd id _ => some id
  | _ => none

def isRoom (q : Request) : Bool := q.room.isSome

/-- Neither a mark of the walk nor a step of ringing somebody. -/
structure Still (q : Request) : Prop where
  mark : q.isMark = false
  dialing : q.isDialing = false

structure Calm (q : Request) : Prop where
  mark : q.isMark = false
  dialing : q.isDialing = false
  room : q.isRoom = false

theorem Calm.still {q : Request} (h : q.Calm) : q.Still := ⟨h.mark, h.dialing⟩

/-- Whether a request is calm is read off its shape. -/
def isCalm (q : Request) : Bool := !(q.isMark || q.isDialing || q.isRoom)

theorem calm_of_isCalm {q : Request} (h : q.isCalm) : q.Calm := by
  simp only [isCalm, Bool.not_eq_true', Bool.or_eq_false_iff, and_assoc] at h
  exact ⟨h.1, h.2.1, h.2.2⟩

end Request

/-- The event settles what becomes of the leg: it answered, ended or was refused. -/
def Event.reports (leg : LegId) : Event → Bool
  | .signal l .answered | .signal l .entered | .signal l (.ended _) | .claimed l false
  | .originated l false => l = leg
  | _ => false

def Heeded (log : WalkLog) : Prop := .sent (.check true) ∈ log

/-- The end of the caller's leg reached a dial that was watching for it. -/
def Told (log : WalkLog) : Prop :=
  ∃ a, [.sent (.awaitLegs true), .got a] <:+: log ∧ a.event = some .callerEnded

def isEnter : Moment Request Reply → Bool
  | .sent (.enter _) => true
  | _ => false

def entered (log : WalkLog) : Nat := log.countP isEnter

def Reported (log : WalkLog) (leg : LegId) : Prop :=
  ∃ a e, .got a ∈ log ∧ a.event = some e ∧ e.reports leg = true

def HungUp (log : WalkLog) (leg : LegId) : Prop := ∃ cause, .sent (.hangupLeg leg cause) ∈ log

/-- The leg was originated, nothing has been heard that settles it, and the walk
has not given it up. -/
def Ringing (log : WalkLog) (leg : LegId) : Prop :=
  (∃ attempt, .sent (.originate leg attempt) ∈ log) ∧ ¬Reported log leg ∧ ¬HungUp log leg

def Quiet (log : WalkLog) : Prop := ∀ leg, ¬Ringing log leg

/-- Every request respects what the walk knew when it made it. -/
def Obeys (log : WalkLog) : Prop :=
  ∀ pre q post, log = pre ++ .sent q :: post →
    (Heeded pre → q.isCommand = false ∧ q.isDialing = false) ∧ (Told pre → q.isDialing = false)

section append

variable {log : WalkLog} {q : Request} {a : Reply}

theorem Heeded.append (h : Heeded log) (more : WalkLog) : Heeded (log ++ more) :=
  List.mem_append_left _ h

theorem heeded_sent : Heeded (log ++ [.sent q]) ↔ Heeded log ∨ q = .check true := by
  simp only [Heeded, List.mem_append, List.mem_singleton, Moment.sent.injEq]
  exact or_congr Iff.rfl eq_comm

theorem heeded_got : Heeded (log ++ [.got a]) ↔ Heeded log := by
  simp only [Heeded, List.mem_append, List.mem_singleton, reduceCtorEq, or_false]

theorem Told.append (h : Told log) (more : WalkLog) : Told (log ++ more) := by
  obtain ⟨a, hin, ha⟩ := h
  exact ⟨a, hin.trans (List.prefix_append log more).isInfix, ha⟩

theorem pair_infix_concat {α : Type} {x y z : α} {l : List α} :
    [x, y] <:+: l ++ [z] ↔ [x, y] <:+: l ∨ ([x] <:+ l ∧ y = z) := by
  rw [List.infix_concat_iff]
  constructor
  · rintro (h | h)
    · right
      have : [x] ++ [y] <:+ l ++ [z] := h
      obtain ⟨t, ht⟩ := this
      rw [← List.append_assoc] at ht
      obtain ⟨h₁, h₂⟩ := List.append_inj' ht rfl
      exact ⟨⟨t, h₁⟩, by simpa using h₂⟩
    · exact .inl h
  · rintro (h | ⟨⟨t, rfl⟩, rfl⟩)
    · exact .inr h
    · exact .inl ⟨t, by simp⟩

theorem told_sent : Told (log ++ [.sent q]) ↔ Told log := by
  constructor
  · rintro ⟨a, hin, ha⟩
    obtain h | ⟨-, h⟩ := pair_infix_concat.mp hin
    · exact ⟨a, h, ha⟩
    · cases h
  · exact fun h => h.append _

theorem told_got : Told (log ++ [.got a]) →
    Told log ∨ ([.sent (.awaitLegs true)] <:+ log ∧ a.event = some .callerEnded) := by
  rintro ⟨b, hin, hb⟩
  obtain h | ⟨hs, h⟩ := pair_infix_concat.mp hin
  · exact .inl ⟨b, h, hb⟩
  · cases h
    exact .inr ⟨hs, hb⟩

theorem told_asked (h : Told (log ++ [.sent q, .got a])) :
    Told log ∨ (q = .awaitLegs true ∧ a.event = some .callerEnded) := by
  have h' : Told ((log ++ [.sent q]) ++ [.got a]) := by simpa using h
  obtain h | ⟨⟨t, ht⟩, ha⟩ := told_got h'
  · exact .inl (told_sent.mp h)
  · obtain ⟨-, hq⟩ := List.append_inj' ht rfl
    exact .inr ⟨by simpa using hq.symm, ha⟩

theorem entered_sent : entered (log ++ [.sent q]) = entered log + if isEnter (.sent q) then 1 else 0 := by
  simp [entered, List.countP_append, List.countP_cons]

theorem entered_got : entered (log ++ [.got a]) = entered log := by
  simp [entered, List.countP_append, isEnter]

variable {leg : LegId}

theorem Reported.append (h : Reported log leg) (more : WalkLog) :
    Reported (log ++ more) leg := by
  obtain ⟨a, e, ha, he, hr⟩ := h
  exact ⟨a, e, List.mem_append_left _ ha, he, hr⟩

theorem HungUp.append (h : HungUp log leg) (more : WalkLog) :
    HungUp (log ++ more) leg := by
  obtain ⟨cause, hc⟩ := h
  exact ⟨cause, List.mem_append_left _ hc⟩

theorem Ringing.of_append {more : WalkLog} (h : Ringing (log ++ more) leg) :
    Ringing log leg ∨ ∃ attempt, .sent (.originate leg attempt) ∈ more := by
  obtain ⟨⟨attempt, ho⟩, hr, hh⟩ := h
  obtain ho | ho := List.mem_append.mp ho
  · exact .inl ⟨⟨attempt, ho⟩, fun h => hr (h.append _), fun h => hh (h.append _)⟩
  · exact .inr ⟨attempt, ho⟩

theorem Obeys.sent (h : Obeys log) (hq : Heeded log → q.isCommand = false ∧ q.isDialing = false)
    (ht : Told log → q.isDialing = false) : Obeys (log ++ [.sent q]) := by
  intro pre q' post hlog
  obtain rfl | ⟨post', m, rfl⟩ := List.eq_nil_or_concat post
  · obtain ⟨rfl, hlast⟩ := List.append_inj' hlog rfl
    cases hlast
    exact ⟨hq, ht⟩
  · rw [List.concat_eq_append, ← List.cons_append, ← List.append_assoc] at hlog
    obtain ⟨rfl, -⟩ := List.append_inj' hlog rfl
    exact h pre q' post' rfl

theorem Obeys.got (h : Obeys log) : Obeys (log ++ [.got a]) := by
  intro pre q' post hlog
  obtain rfl | ⟨post', m, rfl⟩ := List.eq_nil_or_concat post
  · obtain ⟨-, hlast⟩ := List.append_inj' hlog rfl
    cases hlast
  · rw [List.concat_eq_append, ← List.cons_append, ← List.append_assoc] at hlog
    obtain ⟨rfl, -⟩ := List.append_inj' hlog rfl
    exact h pre q' post' rfl

theorem obeys_of_unaware (hh : ¬Heeded log) (ht : ¬Told log) : Obeys log := by
  rintro pre q post rfl
  exact ⟨fun h => absurd (h.append _) hh, fun h => absurd (h.append _) ht⟩

end append

section order

variable {mark bad : Request → Bool} {log mid post : WalkLog} {q : Request}

/-- No bad request is made before the next marked one. -/
def holdsUntil (mark bad : Request → Bool) : WalkLog → Bool
  | [] => true
  | .sent q :: rest => mark q || (!bad q && holdsUntil mark bad rest)
  | .got _ :: rest => holdsUntil mark bad rest

theorem marked_of_holdsUntil (h : holdsUntil mark bad (mid ++ .sent q :: post) = true)
    (hm : mark q = false) (hb : bad q = true) :
    ∃ front r back, mid = front ++ .sent r :: back ∧ mark r = true := by
  induction mid with
  | nil => simp [holdsUntil, hm, hb] at h
  | cons m rest ih =>
    have hlater : holdsUntil mark bad (rest ++ .sent q :: post) = true →
        ∃ front r back, m :: rest = front ++ .sent r :: back ∧ mark r = true := by
      intro hrest
      obtain ⟨front, r, back, rfl, hr⟩ := ih hrest
      exact ⟨m :: front, r, back, rfl, hr⟩
    cases m with
    | got a => exact hlater h
    | sent r =>
      by_cases hr : mark r = true
      · exact ⟨[], r, rest, rfl, hr⟩
      · simp only [List.cons_append, holdsUntil, hr, Bool.false_or, Bool.and_eq_true] at h
        exact hlater h.2

theorem holdsUntil_of_none (h : ∀ q, .sent q ∈ log → bad q = false) :
    holdsUntil mark bad log = true := by
  induction log with
  | nil => rfl
  | cons m rest ih =>
    have hrest : holdsUntil mark bad rest = true := ih fun q hq => h q (by simp [hq])
    cases m with
    | got a => exact hrest
    | sent q => simp [holdsUntil, h q (by simp), hrest]

end order

section pairs

def anyReply (p : Request → Reply → Bool) : WalkLog → Bool
  | .sent q :: .got a :: rest => p q a || anyReply p (.got a :: rest)
  | _ :: rest => anyReply p rest
  | [] => false

theorem anyReply_of_infixOf {p : Request → Reply → Bool} {q : Request} {a : Reply} (hp : p q a = true)
    {log : WalkLog} (h : [.sent q, .got a] <:+: log) : anyReply p log = true := by
  obtain ⟨front, back, rfl⟩ := h
  induction front with
  | nil => simp [anyReply, hp]
  | cons m rest ih =>
    have hrest : anyReply p (rest ++ [.sent q, .got a] ++ back) = true := ih
    simp only [List.cons_append]
    unfold anyReply
    split
    · rename_i heq
      rw [(List.cons.inj heq).2] at hrest
      simp [hrest]
    · rename_i heq
      rw [← (List.cons.inj heq).2]
      exact hrest
    · rename_i heq
      cases heq

end pairs

end OptimiqVoice.Engine

import OptimiqVoice.Lib.Machine
import OptimiqVoice.Sipd.Location

namespace OptimiqVoice.Sipd

open Lib

inductive Task where
  | handling (h : Handling)
  /-- `Sweep` after its lock: the bindings it found lapsed, the first to be deleted next. -/
  | sweeping (now : Int) (lapsed : List Copy)
  /-- The first is deleted and its event is to be published. -/
  | expiring (now : Int) (copy : Copy) (rest : List Copy)
  | listing
  | loading (keys : List GoString) (found : List Copy)
  | adopting (found : List Copy)
deriving DecidableEq

structure Instance where
  tracked : Dict GoString Copy
  tasks : Dict Nat Task

inductive EdgeNote (ι : Type) where
  | did (site : ι) (effect : Effect)
  /-- A sweep's deletion was applied, at this time, and removed this. -/
  | swept (removed : Option Copy) (clock : Int)
  | expired (copy : Copy) (registeredFor : Int)

/-- The instances of the edge over their one bucket. -/
structure Edge (ι : Type) where
  store : Store
  instances : ι → Instance
  clock : Int
  notes : List (EdgeNote ι)

inductive EdgeEvent (ι : Type) where
  | tick (elapsed : Nat)
  /-- A REGISTER arrives; its nonce was checked at the second given. -/
  | register (i : ι) (n : Nat) (checked : Int) (req : Request)
  /-- `Sweep` reads the clock, takes its lock and collects what has lapsed, in any order. -/
  | sweep (i : ι) (n : Nat) (now : Int) (order : List Copy)
  | rehydrate (i : ι) (n : Nat)
  | listed (i : ι) (n : Nat) (order : List GoString)
  | proceed (i : ι) (n : Nat) (o : Outcome)
  /-- The process dies and another is started in its place. -/
  | restart (i : ι)
  /-- The bucket's own time to live drops a key. -/
  | drop (key : GoString)

def lapsed (now : Int) (tracked : Dict GoString Copy) : List Copy :=
  (tracked.entries.filter fun e => e.2.binding.expired now).map Prod.snd

def untrackLapsed (now : Int) (tracked : Dict GoString Copy) : Dict GoString Copy :=
  ⟨tracked.entries.filter fun e => !e.2.binding.expired now,
    tracked.nodup.sublist (List.filter_sublist.map _)⟩

def adopt (tracked : Dict GoString Copy) (found : List Copy) : Dict GoString Copy :=
  found.foldl (fun t copy => match copy.binding.key with
    | .ok key => t.set key copy
    | .error _ => t) tracked

namespace Edge

variable {ι : Type} [DecidableEq ι] (e : Edge ι) (r : Registrar)

def setInstance (i : ι) (x : Instance) : Edge ι :=
  { e with instances := Function.update e.instances i x }

def setTask (i : ι) (n : Nat) (t : Option Task) : Edge ι :=
  let x := e.instances i
  e.setInstance i { x with tasks := match t with | some t => x.tasks.set n t | none => x.tasks.erase n }

def setTracked (i : ι) (tracked : Dict GoString Copy) : Edge ι :=
  e.setInstance i { e.instances i with tracked := tracked }

def note (notes : List (EdgeNote ι)) : Edge ι := { e with notes := e.notes ++ notes }

/-- What is left of a sweep when its first binding is dealt with. -/
def restOf (now : Int) : List Copy → Option Task
  | [] => none
  | rest => some (.sweeping now rest)

def proceed (i : ι) (n : Nat) (o : Outcome) : Task → Option (Edge ι)
  | .handling h =>
    let turn := r.advance e.clock o e.store (e.instances i).tracked h
    some ((({ e with store := turn.store }.setTracked i turn.tracked).setTask i n
      (turn.next.map .handling)).note (turn.effects.map (.did i)))
  | .sweeping _ [] => some (e.setTask i n none)
  | .sweeping now (copy :: rest) =>
    let removed := match copy.binding.key with
      | .ok key => if o.applied then e.store.bindings.get? key else none
      | .error _ => none
    some (({ e with store := e.store.delete o copy.binding.orgId copy.binding.aorHash }.setTask i n
      (some (.expiring now copy rest))).note [.swept removed e.clock])
  | .expiring now copy rest =>
    let published := if o.applied then [.expired copy (inSeconds (copy.binding.registeredFor now))] else []
    some ((e.setTask i n (restOf now rest)).note published)
  | .listing => none
  | .loading [] found => some (e.setTask i n (some (.adopting found)))
  | .loading (key :: keys) found =>
    if o = .ok then
      some (e.setTask i n (some (.loading keys (found ++ (e.store.bindings.get? key).toList))))
    -- a read that fails ends the rehydration
    else some (e.setTask i n none)
  | .adopting found =>
    some ((e.setTracked i (adopt (e.instances i).tracked found)).setTask i n none)

def start (i : ι) (n : Nat) (t : Task) : Option (Edge ι) :=
  if (e.instances i).tasks.has n then none else some (e.setTask i n (some t))

def step : EdgeEvent ι → Option (Edge ι)
  | .tick elapsed => some { e with clock := e.clock + elapsed }
  | .register i n checked req =>
    match r.begin checked e.clock req with
    | .error res => some (e.note [.did i (.respond res)])
    | .ok h => e.start i n (.handling h)
  | .sweep i n now order =>
    let tracked := (e.instances i).tracked
    if now ≤ e.clock ∧ order.isPerm (lapsed now tracked) then
      (e.setTracked i (untrackLapsed now tracked)).start i n (.sweeping now order)
    else none
  | .rehydrate i n => e.start i n .listing
  | .listed i n order =>
    if (e.instances i).tasks.get? n = some .listing ∧ order.isPerm e.store.bindings.keys then
      some (e.setTask i n (some (.loading order [])))
    else none
  | .proceed i n o => ((e.instances i).tasks.get? n).bind (e.proceed r i n o)
  | .restart i => some (e.setInstance i ⟨Dict.empty, Dict.empty⟩)
  | .drop key => some { e with store := { e.store with bindings := e.store.bindings.erase key } }

section frame

variable {e} {i j : ι} {n m : Nat} {t : Option Task} {tracked : Dict GoString Copy}

@[simp] theorem store_setTask : (e.setTask i n t).store = e.store := rfl

variable {notes : List (EdgeNote ι)}

omit [DecidableEq ι] in
@[simp] theorem store_note : (e.note notes).store = e.store := rfl

attribute [local simp] setInstance setTask

@[simp] theorem tracked_setTask : ((e.setTask i n t).instances j).tracked = (e.instances j).tracked := by
  by_cases h : j = i
  · subst h
    simp
  · simp [h]

theorem tasks_setTask : ((e.setTask i n t).instances j).tasks.get? m =
    if i = j ∧ n = m then t else (e.instances j).tasks.get? m := by
  by_cases h : j = i
  · subst h
    cases t <;> by_cases hm : n = m <;> simp [Dict.get?_set, Dict.get?_erase, hm]
  · simp [h, Ne.symm h]

attribute [local simp] setTracked

@[simp] theorem tasks_setTracked : ((e.setTracked i tracked).instances j).tasks = (e.instances j).tasks := by
  by_cases h : j = i
  · subst h
    simp
  · simp [h]

theorem tracked_setTracked : ((e.setTracked i tracked).instances j).tracked =
    if i = j then tracked else (e.instances j).tracked := by
  by_cases h : j = i
  · subst h
    simp
  · simp [h, Ne.symm h]

theorem start_eq_some {e' : Edge ι} {task : Task} (h : e.start i n task = some e') :
    (e.instances i).tasks.get? n = none ∧ e' = e.setTask i n (some task) := by
  obtain ⟨hn, he⟩ := Option.ite_none_left_eq_some.mp h
  cases he
  exact ⟨by simpa [Dict.has] using hn, rfl⟩

end frame

end Edge

def Edge.init (ι : Type) : Edge ι where
  store := ⟨Dict.empty, 0⟩
  instances := fun _ => ⟨Dict.empty, Dict.empty⟩
  clock := 0
  notes := []

end OptimiqVoice.Sipd

import Mathlib.Data.List.Induction
import OptimiqVoice.Nats.ChannelStore

namespace OptimiqVoice.Nats

open Lib Calls

/-- The time that an operation in the middle of its work still reasons with. -/
def Waiting.askedAt : Waiting → Option Int
  | creating now => some now
  | reading now _ => some now
  | _ => none

/-- The names of distinct instances can be told apart in an entry, where a name is
read without the blanks around it. -/
structure WellNamed {ι : Type} (ids : ι → JsString) : Prop where
  injective : Function.Injective ids
  legible : ∀ i, trim (ids i) ≠ []
  distinct : ∀ i j, i ≠ j → trim (ids i) ≠ ids j

abbrev ChannelLedger (ι : Type) := Ledger ι WriteKind ChannelSnapshot

variable {e : ChannelSnapshot} {k : WriteKind} {w : Write ChannelSnapshot}

variable {r : Nat}

section fencing

variable {ι : Type} (ids : ι → JsString)

def OwnedBy (i : ι) (e : ChannelSnapshot) : Prop := e.vars.ownerInstanceId = some (ids i)

def WrittenBy (l : ChannelLedger ι) (i : ι) (r : Nat) : Prop :=
  ∃ c e, l.entry r = some c ∧ c.writer = i ∧ c.value = some e ∧ OwnedBy ids i e

/-- At the time, nobody else has a lease on the entry. -/
def FreeFor (now : Int) (i : ι) (e : ChannelSnapshot) : Prop :=
  ∀ o, channelOwnershipOf e = some o → o.expiresAt ≤ now ∨ o.instanceId = ids i

/-- The writes an instance may have under way: a mirror, a renewal or a deletion
over a revision of its own, an adoption over an entry that was free. -/
def MayWrite (now : Int) (l : ChannelLedger ι) (i : ι) : WriteKind → Write ChannelSnapshot → Prop
  | .claim, .create e => OwnedBy ids i e
  | .adopt, .update e r => OwnedBy ids i e ∧ ∃ c e₀, l.entry r = some c ∧ c.value = some e₀ ∧ FreeFor ids now i e₀
  | .renew, .update e r => OwnedBy ids i e ∧ WrittenBy ids l i r
  | .persist, .update e r => OwnedBy ids i e ∧ WrittenBy ids l i r
  | .delete, .delete r => WrittenBy ids l i r
  | _, _ => False

structure Instance.Fenced (now : Int) (l : ChannelLedger ι) (i : ι) (s : Instance ι) : Prop where
  remembers : ∀ r, s.channelRevision = some r → WrittenBy ids l i r
  queued : ∀ x ∈ s.queue, ∀ asked ∈ x.2.askedAt, asked ≤ now
  waits : ∀ t c w, s.running = some (t, c, w) → c.sender = i ∧ ∀ asked ∈ w.askedAt, asked ≤ now

structure Channels.Fenced (s : Channels ι) : Prop where
  broker : s.broker.Faithful (MayWrite ids s.now)
  each : ∀ i, (s.instances i).Fenced ids s.now s.broker.ledger i

variable {ids} {now now' : Int} {l : ChannelLedger ι} {i : ι} {inst : Instance ι}

@[simp]
theorem ownedBy_withChannelOwnership (e : ChannelSnapshot) (expiresAt : Int) :
    OwnedBy ids i (withChannelOwnership e (ids i) expiresAt) := rfl

theorem WrittenBy.append (h : WrittenBy ids l i r) (more : ChannelLedger ι) :
    WrittenBy ids (l ++ more) i r := by
  obtain ⟨c, e, hc, hw⟩ := h
  exact ⟨c, e, l.entry_append hc more, hw⟩

theorem FreeFor.later (h : FreeFor ids now i e) (hle : now ≤ now') : FreeFor ids now' i e :=
  fun o ho => (h o ho).imp_left (le_trans · hle)

theorem MayWrite.append (h : MayWrite ids now l i k w)
    (more : ChannelLedger ι) : MayWrite ids now (l ++ more) i k w := by
  cases k <;> cases w <;> try exact h
  case adopt.update =>
    obtain ⟨ho, c, e₀, hc, hfree⟩ := h
    exact ⟨ho, c, e₀, l.entry_append hc more, hfree⟩
  case renew.update => exact ⟨h.1, h.2.append more⟩
  case persist.update => exact ⟨h.1, h.2.append more⟩
  case delete.delete => exact WrittenBy.append h more

theorem MayWrite.later (h : MayWrite ids now l i k w)
    (hle : now ≤ now') : MayWrite ids now' l i k w := by
  cases k <;> cases w <;> try exact h
  case adopt.update =>
    obtain ⟨ho, c, e₀, hc, hv, hfree⟩ := h
    exact ⟨ho, c, e₀, hc, hv, hfree.later hle⟩

theorem MayWrite.owned (h : MayWrite ids now l i k w)
    (he : w.value = some e) : OwnedBy ids i e := by
  cases k <;> cases w <;> cases he <;> first | exact h | exact h.1 | exact absurd h id

theorem Instance.Fenced.append (h : inst.Fenced ids now l i) (more : ChannelLedger ι) :
    inst.Fenced ids now (l ++ more) i :=
  ⟨fun r hr => (h.remembers r hr).append more, h.queued, h.waits⟩

theorem Instance.Fenced.later (h : inst.Fenced ids now l i) (hle : now ≤ now') :
    inst.Fenced ids now' l i :=
  ⟨h.remembers, fun x hx a ha => le_trans (h.queued x hx a ha) hle,
    fun t c w hw => ⟨(h.waits t c w hw).1, fun a ha => le_trans ((h.waits t c w hw).2 a ha) hle⟩⟩

theorem Instance.Fenced.forget (h : inst.Fenced ids now l i) :
    inst.forgetChannelOwnership.Fenced ids now l i :=
  ⟨nofun, h.queued, h.waits⟩

/-- What an operation may do next: a write it may make, and nothing asked later
than now. -/
def Turn.Fair (ids : ι → JsString) (now : Int) (l : ChannelLedger ι) (i : ι) : Turn → Prop
  | .ask q w => (∀ k wr, q = .write k wr → MayWrite ids now l i k wr) ∧ ∀ asked ∈ w.askedAt, asked ≤ now
  | .finish _ => True

theorem fair_write {wr : Write ChannelSnapshot} {w : Waiting} :
    (Turn.ask (.write k wr) w).Fair ids now l i ↔
      MayWrite ids now l i k wr ∧ ∀ asked ∈ w.askedAt, asked ≤ now := by
  simp [Turn.Fair]

theorem writtenBy_of_faithful {b : Broker ι WriteKind ChannelSnapshot}
    (h : b.Faithful (MayWrite ids now)) {c : Call ι WriteKind ChannelSnapshot}
    (hr : (c, .written r) ∈ b.answers) : WrittenBy ids b.ledger c.sender r := by
  obtain ⟨k, w, -, hw, hv, he⟩ := h.written c r hr
  obtain ⟨e, hval⟩ := Option.isSome_iff_exists.mp hv
  exact ⟨_, e, he, rfl, hval, hw.owned hval⟩

theorem start_fair {op : ChannelOp} (h : inst.Fenced ids now l i)
    (hop : ∀ asked ∈ op.askedAt, asked ≤ now) : (inst.start (ids i) op).2.Fair ids now l i := by
  cases op with
  | claimChannel e t =>
    refine ⟨fun k wr hw => ?_, hop⟩
    cases hw
    exact ownedBy_withChannelOwnership e _
  | adoptChannel t => exact ⟨fun k wr hw => (nomatch hw), hop⟩
  | releaseChannelOwnership => exact trivial
  | renewChannel e t =>
    cases hr : inst.channelRevision with
    | none =>
      rw [Instance.start_renew_none hr]
      exact trivial
    | some r =>
      have hw := h.remembers r hr
      rw [Instance.start_renew_some hr, fair_write]
      exact ⟨⟨ownedBy_withChannelOwnership e _, hw⟩, nofun⟩
  | persistChannel e t =>
    cases hr : inst.channelRevision with
    | none =>
      rw [Instance.start_persist_none hr]
      exact trivial
    | some r =>
      have hw := h.remembers r hr
      rw [Instance.start_persist_some hr, fair_write]
      exact ⟨⟨ownedBy_withChannelOwnership e _, hw⟩, nofun⟩
  | deleteChannel =>
    cases hr : inst.channelRevision with
    | none =>
      rw [Instance.start_delete_none hr]
      exact trivial
    | some r =>
      have hw := h.remembers r hr
      rw [Instance.start_delete_some hr, fair_write]
      exact ⟨hw, nofun⟩

theorem start_fenced (op : ChannelOp) (h : inst.Fenced ids now l i) :
    (inst.start (ids i) op).1.Fenced ids now l i := by
  have hforget := h.forget
  cases op with
  | claimChannel _ _ | adoptChannel _ => exact h
  | releaseChannelOwnership => exact hforget
  | renewChannel e t =>
    cases hr : inst.channelRevision with
    | none => exact Instance.start_renew_none hr ▸ h
    | some r => exact Instance.start_renew_some hr ▸ h
  | persistChannel e t =>
    cases hr : inst.channelRevision with
    | none => exact Instance.start_persist_none hr ▸ h
    | some r => exact Instance.start_persist_some hr ▸ h
  | deleteChannel =>
    cases hr : inst.channelRevision with
    | none => exact Instance.start_delete_none hr ▸ h
    | some r => exact Instance.start_delete_some hr ▸ h

theorem freeFor_of_not_isHeld {t : Int} {allow : Bool}
    (h : Instance.isHeld (ids i) e t allow = false) (ht : t ≤ now) : FreeFor ids now i e := by
  intro o ho
  by_cases hid : o.instanceId = ids i
  · exact .inr hid
  · simp [Instance.isHeld, ho, hid] at h
    exact .inl (le_trans h ht)

theorem resume_spec {w : Waiting} {a : Answer ChannelSnapshot} {next : Instance ι × Turn}
    (hres : inst.resume (ids i) w a = some next) (h : inst.Fenced ids now l i)
    (hw : ∀ asked ∈ w.askedAt, asked ≤ now) (hwritten : ∀ r, a = .written r → WrittenBy ids l i r)
    (hfound : ∀ e r, a = .entry (some (e, r)) → ∃ c, l.entry r = some c ∧ c.value = some e) :
    next.1.Fenced ids now l i ∧ next.2.Fair ids now l i := by
  have hforget := h.forget
  have hremember : ∀ r expiresAt, a = .written r →
      (inst.rememberChannelOwnership r expiresAt).Fenced ids now l i := by
    intro r expiresAt ha
    refine ⟨fun r' hr' => ?_, h.queued, h.waits⟩
    cases hr'
    exact hwritten r ha
  unfold Instance.resume at hres
  split at hres
  case h_4 t allow e r =>
    split at hres <;> cases hres
    · exact ⟨h, trivial⟩
    · rename_i hheld
      obtain ⟨c, hc, hv⟩ := hfound e r rfl
      refine ⟨h, fair_write.mpr ⟨?_, nofun⟩⟩
      exact ⟨ownedBy_withChannelOwnership e _, c, e, hc, hv,
        freeFor_of_not_isHeld (by simpa using hheld) (hw t rfl)⟩
  case h_2 t =>
    cases hres
    exact ⟨h, fun k wr hwr => (nomatch hwr), hw⟩
  all_goals cases hres
  all_goals
    first
    | exact ⟨hremember _ _ rfl, trivial⟩
    | exact ⟨h, trivial⟩
    | exact ⟨hforget, trivial⟩

end fencing

namespace Channels

variable {ι : Type} [DecidableEq ι] {ids : ι → JsString} {s s' : Channels ι}

theorem Fenced.put (h : s.Fenced ids) {i : ι} {next : Instance ι}
    (hnext : next.Fenced ids s.now s.broker.ledger i) : (s.put i next).Fenced ids where
  broker := h.broker
  each := by
    intro j
    by_cases hj : j = i
    · subst hj
      simpa [Channels.put] using hnext
    · simpa [Channels.put, hj] using h.each j

theorem Fenced.turn (h : s.Fenced ids) {i : ι} (ticket : Nat) {next : Instance ι × Turn}
    (hnext : next.1.Fenced ids s.now s.broker.ledger i) (hfair : next.2.Fair ids s.now s.broker.ledger i) :
    (s.turn i ticket next).Fenced ids := by
  obtain ⟨next, turn⟩ := next
  cases turn with
  | ask q w =>
    have hsent : ({ s with broker := s.broker.send i q } : Channels ι).Fenced ids :=
      ⟨h.broker.send hfair.1, h.each⟩
    apply hsent.put
    refine ⟨hnext.remembers, hnext.queued, ?_⟩
    intro t c w' hw'
    cases hw'
    exact ⟨rfl, hfair.2⟩
  | finish o => exact h.put ⟨hnext.remembers, hnext.queued, fun _ _ _ hw => (nomatch hw)⟩

theorem Fenced.step (h : s.Fenced ids) {e : StoreEvent ι} (hstep : s.step ids e = some s') : s'.Fenced ids := by
  cases e with
  | tick now =>
    obtain ⟨hle, hs⟩ := Option.ite_none_right_eq_some.mp hstep
    cases hs
    exact ⟨h.broker.mono fun _ _ _ _ hw => hw.later hle, fun i => (h.each i).later hle⟩
  | call i op =>
    obtain ⟨hasked, hs⟩ := Option.ite_none_right_eq_some.mp hstep
    cases hs
    refine h.put ⟨(h.each i).remembers, fun x hx => ?_, (h.each i).waits⟩
    obtain hx | hx := List.mem_append.mp hx
    · exact (h.each i).queued x hx
    · obtain rfl := List.mem_singleton.mp hx
      exact hasked
  | start i =>
    simp only [Channels.step] at hstep
    split at hstep
    · rename_i ticket op rest hrun hqueue
      cases hstep
      have hi := h.each i
      have hop := hi.queued (ticket, op) (by rw [hqueue]; exact .head _)
      have hrest : ({ s.instances i with queue := rest } : Instance ι).Fenced ids s.now s.broker.ledger i :=
        ⟨hi.remembers, fun x hx => hi.queued x (by rw [hqueue]; exact .tail _ hx), hi.waits⟩
      exact h.turn ticket (start_fenced op hrest) (start_fair hrest hop)
    · cases hstep
  | execute n =>
    obtain ⟨b, hb, rfl⟩ := Option.map_eq_some_iff.mp hstep
    obtain ⟨c, hc, rfl⟩ := Broker.execute_eq_some hb
    refine ⟨h.broker.perform (fun _ more _ _ _ hw => hw.append more) hc, fun i => ?_⟩
    obtain ⟨more, hmore⟩ := s.broker.perform_grows c
    change (s.instances i).Fenced ids s.now (s.broker.perform c).ledger i
    rw [hmore]
    exact (h.each i).append more
  | answer i =>
    simp only [Channels.step] at hstep
    split at hstep
    · cases hstep
    · rename_i ticket call waiting hrun
      obtain ⟨a, ha, hres⟩ := Option.bind_eq_some_iff.mp hstep
      obtain ⟨next, hnext, rfl⟩ := Option.map_eq_some_iff.mp hres
      obtain ⟨rfl, hasked⟩ := (h.each i).waits ticket call waiting hrun
      have hmem := Broker.answerTo_mem ha
      obtain ⟨hinst, hfair⟩ := resume_spec hnext (h.each _) hasked
        (fun r hr => writtenBy_of_faithful h.broker (hr ▸ hmem)) (fun v r hr => h.broker.found _ v r (hr ▸ hmem))
      exact h.turn ticket hinst hfair
  | fail i =>
    simp only [Channels.step] at hstep
    split at hstep
    · cases hstep
    · cases hstep
      exact h.turn _ (h.each i) trivial
  | crash i =>
    cases hstep
    exact h.put ⟨fun _ hr => (nomatch hr), fun _ hx => (nomatch hx), fun _ _ _ hw => (nomatch hw)⟩

theorem turn_ledger (i : ι) (ticket : Nat) (next : Instance ι × Turn) :
    (s.turn i ticket next).broker.ledger = s.broker.ledger := by
  obtain ⟨next, turn⟩ := next
  cases turn <;> rfl

theorem Fenced.commit (h : s.Fenced ids) {e : StoreEvent ι} (hstep : s.step ids e = some s') :
    s'.broker.ledger = s.broker.ledger ∨ ∃ i k w, MayWrite ids s.now s.broker.ledger i k w ∧
      s.broker.ledger.accepts w ∧ s'.broker.ledger = s.broker.ledger ++ [⟨i, k, w.value⟩] := by
  cases e with
  | execute n =>
    obtain ⟨b, hb, rfl⟩ := Option.map_eq_some_iff.mp hstep
    obtain ⟨c, hc, rfl⟩ := Broker.execute_eq_some hb
    obtain hsame | ⟨k, w, hq, ha, hl⟩ := s.broker.perform_ledger c
    · exact .inl hsame
    · exact .inr ⟨c.sender, k, w, h.broker.sent c hc k w hq, ha, hl⟩
  | tick _ | call _ _ =>
    obtain ⟨-, hs⟩ := Option.ite_none_right_eq_some.mp hstep
    cases hs
    exact .inl rfl
  | start _ | fail _ =>
    simp only [Channels.step] at hstep
    split at hstep <;> cases hstep
    exact .inl (turn_ledger ..)
  | answer i =>
    simp only [Channels.step] at hstep
    split at hstep
    · cases hstep
    · obtain ⟨a, -, hres⟩ := Option.bind_eq_some_iff.mp hstep
      obtain ⟨next, -, rfl⟩ := Option.map_eq_some_iff.mp hres
      exact .inl (turn_ledger ..)
  | crash i =>
    cases hstep
    exact .inl rfl

end Channels

variable {expiresAt : Int}

section overRuns

variable {ι : Type} {ids : ι → JsString} {l : ChannelLedger ι} {i : ι} {now : Int}

/-- A lease of the instance on the entry. -/
structure LeaseOf (ids : ι → JsString) (i : ι) (e : ChannelSnapshot) (expiresAt : Int) : Prop where
  owner : e.vars.ownerInstanceId = some (ids i)
  until_ : e.vars.ownerExpiresAt = some expiresAt

theorem WellNamed.ownership (h : WellNamed ids)
    (he : LeaseOf ids i e expiresAt) : channelOwnershipOf e = some ⟨trim (ids i), expiresAt⟩ := by
  simp [channelOwnershipOf, he.owner, he.until_, h.legible i]

/-- The writer of the newest revision, where the write is over that revision. -/
theorem WrittenBy.last (h : WrittenBy ids l i r) (hr : r = l.revision) :
    ∃ c e, l.getLast? = some c ∧ c.writer = i ∧ l.current = some e ∧ OwnedBy ids i e := by
  obtain ⟨c, e, hc, hi, hv, ho⟩ := h
  subst hr
  exact ⟨c, e, l.entry_revision.symm.trans hc, hi, (l.current_eq hc).trans hv, ho⟩

attribute [local simp] Ledger.accepts

theorem MayWrite.expired (hids : WellNamed ids)
    (h : MayWrite ids now l i k w) (ha : l.accepts w) {j : ι} (hj : j ≠ i)
    (hcur : l.current = some e) (hlease : LeaseOf ids j e expiresAt) : expiresAt ≤ now := by
  have own : ∀ r, WrittenBy ids l i r → r = l.revision → expiresAt ≤ now := by
    intro r hw hr
    obtain ⟨c, e', -, -, hcur', ho⟩ := hw.last hr
    obtain rfl : e = e' := Option.some.inj (hcur.symm.trans hcur')
    have hname : ids j = ids i := Option.some.inj (hlease.owner.symm.trans ho)
    exact absurd (hids.injective hname) hj
  cases k <;> cases w <;> try exact h.elim
  case claim.create => simp [hcur] at ha
  case adopt.update e' r =>
    obtain ⟨-, c, e₀, hc, hv, hfree⟩ := h
    obtain rfl : r = l.revision := by simpa using ha
    obtain rfl : e₀ = e := Option.some.inj (hv.symm.trans ((l.current_eq hc).symm.trans hcur))
    obtain hle | hname := hfree _ (hids.ownership hlease)
    · exact hle
    · exact absurd hname (hids.distinct j i hj)
  case renew.update e' r => exact own r h.2 (by simpa using ha)
  case persist.update e' r => exact own r h.2 (by simpa using ha)
  case delete.delete r => exact own r h (by simpa using ha)

/-- Every mirror, renewal and deletion among the later commits comes right after a
commit of the same instance. -/
def Chained (l more : ChannelLedger ι) : Prop :=
  ∀ pre d post, more = pre ++ d :: post → d.kind.isAcquisition = false →
    ∃ c, (l ++ pre).getLast? = some c ∧ c.writer = d.writer

theorem Chained.snoc {more : ChannelLedger ι} (h : Chained l more) {d : Commit ι WriteKind ChannelSnapshot}
    (hd : d.kind.isAcquisition = false → ∃ c, (l ++ more).getLast? = some c ∧ c.writer = d.writer) :
    Chained l (more ++ [d]) := by
  intro pre d' post heq hacq
  obtain hpost | ⟨post', x, rfl⟩ := List.eq_nil_or_concat post
  · subst hpost
    obtain ⟨rfl, hlast⟩ := List.append_inj' heq rfl
    obtain rfl : d = d' := by simpa using hlast
    exact hd hacq
  · rw [List.concat_eq_append] at heq
    have heq' : more ++ [d] = (pre ++ d' :: post') ++ [x] := by simpa using heq
    exact h pre d' post' (List.append_inj' heq' rfl).1 hacq

/-- An instance that did not write the newest entry writes again only after it has
acquired the key anew. -/
theorem Chained.acquired {more : ChannelLedger ι} (h : Chained l more)
    {last : Commit ι WriteKind ChannelSnapshot} (hlast : l.getLast? = some last) (hi : i ≠ last.writer)
    {pre : ChannelLedger ι} {d : Commit ι WriteKind ChannelSnapshot} {post : ChannelLedger ι}
    (hmore : more = pre ++ d :: post) (hd : d.writer = i) (hacq : d.kind.isAcquisition = false) :
    ∃ a ∈ pre, a.writer = i ∧ a.kind.isAcquisition := by
  induction pre using List.reverseRecOn generalizing d post with
  | nil =>
    obtain ⟨c, hc, hw⟩ := h [] d post hmore hacq
    rw [List.append_nil, hlast] at hc
    cases hc
    exact absurd (hw.trans hd).symm hi
  | append_singleton pre c ih =>
    obtain ⟨c', hc, hw⟩ := h (pre ++ [c]) d post hmore hacq
    obtain rfl : c = c' := by simpa [← List.append_assoc] using hc
    cases hk : c.kind.isAcquisition with
    | true => exact ⟨c, by simp, hw.trans hd, hk⟩
    | false =>
      obtain ⟨a, ha, hrest⟩ := ih (by rw [hmore, List.append_assoc]; rfl) (hw.trans hd) hk
      exact ⟨a, List.mem_append_left _ ha, hrest⟩

theorem MayWrite.follows (h : MayWrite ids now l i k w)
    (ha : l.accepts w) (hk : k.isAcquisition = false) : ∃ c, l.getLast? = some c ∧ c.writer = i := by
  have own : ∀ r, WrittenBy ids l i r → r = l.revision → ∃ c, l.getLast? = some c ∧ c.writer = i := by
    intro r hw hr
    obtain ⟨c, -, hc, hi, -⟩ := hw.last hr
    exact ⟨c, hc, hi⟩
  cases k <;> cases w <;> try first | exact h.elim | cases hk
  case renew.update e' r => exact own r h.2 (by simpa using ha)
  case persist.update e' r => exact own r h.2 (by simpa using ha)
  case delete.delete r => exact own r h (by simpa using ha)

end overRuns

namespace Channels

variable {ι : Type} [DecidableEq ι] (ids : ι → JsString) (s : Channels ι)

/-- No process has run yet. The key may hold anything. -/
structure Initial : Prop where
  instances : ∀ i, s.instances i = {}
  wire : s.broker.wire = []
  answers : s.broker.answers = []

/-- Ownership of the key is fenced by its revision. -/
structure RevisionFenced : Prop where
  /-- At most one instance remembers the key's current revision. -/
  single : ∀ i j, (s.instances i).channelRevision = some s.broker.ledger.revision →
    (s.instances j).channelRevision = some s.broker.ledger.revision → i = j
  /-- A step that writes over the entry of another instance finds its lease expired. -/
  leased : ∀ e t c, s.step ids e = some t → t.broker.ledger = s.broker.ledger ++ [c] →
    ∀ j entry expiresAt, j ≠ c.writer → s.broker.ledger.current = some entry →
      LeaseOf ids j entry expiresAt → expiresAt ≤ s.now
  /-- Once another instance has written the entry, the instance changes the key only
  after it has acquired it anew. -/
  fenced : ∀ last i, s.broker.ledger.getLast? = some last → i ≠ last.writer →
    ∀ es t, run (step ids) s es = some t → ∀ pre d post, t.broker.ledger = s.broker.ledger ++ (pre ++ d :: post) →
      d.writer = i → d.kind.isAcquisition = false → ∃ a ∈ pre, a.writer = i ∧ a.kind.isAcquisition

variable {ids} {s} {t : Channels ι}

omit [DecidableEq ι] in
theorem Initial.fenced (h : s.Initial) : s.Fenced ids where
  broker := by
    refine ⟨fun c hc => ?_, fun c r hr => ?_, fun c v r hr => ?_⟩
    · simp [h.wire] at hc
    · simp [h.answers] at hr
    · simp [h.answers] at hr
  each := by
    intro i
    rw [h.instances i]
    exact ⟨fun _ hr => (nomatch hr), fun _ hx => (nomatch hx), fun _ _ _ hw => (nomatch hw)⟩

variable {es : List (StoreEvent ι)}

theorem Fenced.reached (h : s.Fenced ids) (hrun : run (Channels.step ids) s es = some t) :
    t.Fenced ids :=
  run_keeps (Fenced ids) (fun _ _ _ hs hstep => hs.step hstep) h hrun

omit [DecidableEq ι] in
theorem Fenced.single (h : s.Fenced ids) {i j : ι} (hi : (s.instances i).channelRevision = some r)
    (hj : (s.instances j).channelRevision = some r) : i = j := by
  obtain ⟨c, -, hc, rfl, -⟩ := (h.each i).remembers r hi
  obtain ⟨c', -, hc', rfl, -⟩ := (h.each j).remembers r hj
  exact congrArg Commit.writer (Option.some.inj (hc.symm.trans hc'))

theorem Fenced.leased (hids : WellNamed ids) (h : s.Fenced ids) {e : StoreEvent ι}
    (hstep : s.step ids e = some t) {c : Commit ι WriteKind ChannelSnapshot}
    (hl : t.broker.ledger = s.broker.ledger ++ [c]) {j : ι} {entry : ChannelSnapshot}
    (hj : j ≠ c.writer) (hcur : s.broker.ledger.current = some entry)
    (hlease : LeaseOf ids j entry expiresAt) : expiresAt ≤ s.now := by
  obtain hsame | ⟨i, k, w, hw, ha, hl'⟩ := h.commit hstep
  · simp [hsame] at hl
  · obtain rfl : c = ⟨i, k, w.value⟩ := by simpa using hl.symm.trans hl'
    exact hw.expired hids ha hj hcur hlease

theorem Fenced.chained (h : s.Fenced ids) (hrun : run (Channels.step ids) s es = some t) :
    ∃ more, t.broker.ledger = s.broker.ledger ++ more ∧ Chained s.broker.ledger more := by
  have key : t.Fenced ids ∧ ∃ more, t.broker.ledger = s.broker.ledger ++ more ∧ Chained s.broker.ledger more := by
    refine run_keeps (fun u => u.Fenced ids ∧ ∃ more, u.broker.ledger = s.broker.ledger ++ more ∧
      Chained s.broker.ledger more) ?_ ⟨h, [], by simp, fun pre d post heq => by simp at heq⟩ hrun
    intro u e v ⟨hu, more, hmore, hchain⟩ hstep
    refine ⟨hu.step hstep, ?_⟩
    obtain hsame | ⟨i, k, w, hw, ha, hl⟩ := hu.commit hstep
    · exact ⟨more, hsame.trans hmore, hchain⟩
    · refine ⟨more ++ [⟨i, k, w.value⟩], by rw [hl, hmore, List.append_assoc], hchain.snoc fun hk => ?_⟩
      rw [← hmore]
      exact hw.follows ha hk
  exact key.2

theorem run_revisionFenced (hids : WellNamed ids) (hs : s.Initial)
    (hrun : run (Channels.step ids) s es = some t) : t.RevisionFenced ids := by
  have ht : t.Fenced ids := hs.fenced.reached hrun
  refine ⟨fun i j hi hj => ht.single hi hj, ?_, ?_⟩
  · intro e u c hstep hl j entry expiresAt hj hcur hlease
    exact ht.leased hids hstep hl hj hcur hlease
  · intro last i hlast hi es' u hrun' pre d post hl hd hk
    obtain ⟨more, hmore, hchain⟩ := ht.chained hrun'
    have heq : more = pre ++ d :: post := List.append_cancel_left (hmore.symm.trans hl)
    exact hchain.acquired hlast hi heq hd hk

/-- Two engines, and a leg whose owner is silent until its lease is over: the
second engine adopts it, and the first one's next mirror is refused. -/
def names : Bool → JsString
  | false => lit "engine-a"
  | true => lit "engine-b"

def takeover : List (StoreEvent Bool) :=
  [.call false (.claimChannel {} 0), .start false, .execute 0, .answer false, .tick 90000,
    .call true (.adoptChannel 90000), .start true, .execute 1, .answer true, .execute 2, .answer true,
    .call false (.persistChannel {} 90000), .start false, .execute 3, .answer false]

theorem names_wellNamed : WellNamed names where
  injective := by
    intro i j
    revert i j
    decide
  legible := by decide
  distinct := by decide

theorem takeover_runs : (run (step names) {} takeover).isSome := by decide

theorem takeover_revisionFenced : ∃ t, run (step names) {} takeover = some t ∧ t.RevisionFenced names ∧
    t.broker.ledger.map Commit.writer = [false, true] ∧ (t.instances false).channelRevision = none := by
  refine ⟨_, (Option.some_get takeover_runs).symm, ?_, by decide, by decide⟩
  exact run_revisionFenced names_wellNamed ⟨fun _ => rfl, rfl, rfl⟩ (Option.some_get takeover_runs).symm

/-- Whoever stores an entry stores itself as the owner. -/
theorem run_entries_name_writer (hs : s.Initial) (hrun : run (step ids) s es = some t) :
    ∃ more, t.broker.ledger = s.broker.ledger ++ more ∧
      ∀ c ∈ more, ∀ e ∈ c.value, OwnedBy ids c.writer e := by
  refine (run_keeps (fun u => u.Fenced ids ∧ ∃ more, u.broker.ledger = s.broker.ledger ++ more ∧
    ∀ c ∈ more, ∀ e ∈ c.value, OwnedBy ids c.writer e) ?_ ⟨hs.fenced, [], by simp⟩ hrun).2
  intro u e v ⟨hu, more, hmore, hown⟩ hstep
  refine ⟨hu.step hstep, ?_⟩
  obtain hsame | ⟨i, k, w, hw, -, hl⟩ := hu.commit hstep
  · exact ⟨more, hsame.trans hmore, hown⟩
  · refine ⟨more ++ [⟨i, k, w.value⟩], by rw [hl, hmore, List.append_assoc], ?_⟩
    exact List.forall_mem_append.mpr ⟨hown, by simpa using fun _ => hw.owned⟩

theorem takeover_entries : ∃ more, ((run (step names) {} takeover).get takeover_runs).broker.ledger =
    [] ++ more ∧ ∀ c ∈ more, ∀ e ∈ c.value, OwnedBy names c.writer e :=
  run_entries_name_writer ⟨fun _ => rfl, rfl, rfl⟩ (Option.some_get _).symm

end Channels

end OptimiqVoice.Nats

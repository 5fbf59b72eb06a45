import OptimiqVoice.Events.Subjects

namespace OptimiqVoice.Events

open Lib

abbrev Family := EntityFamily ⊕ OrgFamily

def Family.root : Family → String
  | .inl f => f.root
  | .inr f => f.root

namespace Publish

variable {α : Type}

def family : Publish α → Family
  | .entity f _ _ _ => .inl f
  | .org f _ => .inr f

def orgId : Publish α → List α
  | .entity _ orgId _ _ => orgId
  | .org _ orgId => orgId

def entityId : Publish α → Option (List α)
  | .entity _ _ entityId _ => some entityId
  | .org _ _ => none

def event : Publish α → Option (List α)
  | .entity _ _ _ event => some event
  | .org _ _ => none

end Publish

namespace Filter

variable {α : Type}

def family : Filter α → Family
  | .all f => .inl f
  | .inOrg f _ => .inl f
  | .entity f _ _ => .inl f
  | .eventInOrg f _ _ => .inl f
  | .callEvent _ => .inl .call
  | .allOrgs f => .inr f
  | .org f _ => .inr f

def orgId : Filter α → Option (List α)
  | .inOrg _ orgId => some orgId
  | .entity _ orgId _ => some orgId
  | .eventInOrg _ orgId _ => some orgId
  | .org _ orgId => some orgId
  | _ => none

def entityId : Filter α → Option (List α)
  | .entity _ _ entityId => some entityId
  | _ => none

def event : Filter α → Option (List α)
  | .eventInOrg _ _ event => some event
  | .callEvent event => some event
  | _ => none

/-- The families are equal, and each coordinate the filter names is the subject's. -/
structure Selects (filter : Filter α) (subject : Publish α) : Prop where
  family : filter.family = subject.family
  org : ∀ orgId ∈ filter.orgId, subject.orgId = orgId
  entity : ∀ entityId ∈ filter.entityId, subject.entityId = some entityId
  event : ∀ event ∈ filter.event, subject.event = some event

end Filter

namespace Script

variable {α : Type} [DecidableEq α] (T : Script α)

def tokens (text : List α) : List (List α) := text.splitOn T.dot

/-- Texts of the source are in ASCII. -/
def IsAscii (s : List Char) : Prop := ∀ c ∈ s, c.toNat < 128

instance (s : List Char) : Decidable (IsAscii s) :=
  List.decidableBAll (fun c : Char => c.toNat < 128) s

theorem map_char_inj {s s' : List Char} (h : IsAscii s) (h' : IsAscii s')
    (heq : s.map T.char = s'.map T.char) : s = s' := by
  induction s generalizing s' with
  | nil => simpa [eq_comm] using heq
  | cons c s ih =>
    cases s' with
    | nil => simp at heq
    | cons c' s' =>
      obtain ⟨hc, hs⟩ := List.cons.inj heq
      obtain rfl := T.char_inj c c' (h c List.mem_cons_self) (h' c' List.mem_cons_self) hc
      rw [ih (fun x hx => h x (.tail _ hx))
        (fun x hx => h' x (.tail _ hx)) hs]

theorem tokens_map_char {s : List Char} (h : IsAscii s) :
    T.tokens (s.map T.char) = (s.splitOn '.').map (List.map T.char) := by
  induction s with
  | nil => rfl
  | cons c s ih =>
    have hrest := ih fun x hx => h x (.tail _ hx)
    rw [tokens] at hrest ⊢
    rw [List.map_cons, List.splitOn_cons_eq_if_modifyHead, List.splitOn_cons_eq_if_modifyHead, hrest]
    have hc : (T.char c == T.dot) = (c == '.') := by
      rw [Bool.eq_iff_iff, beq_iff_eq, beq_iff_eq]
      constructor
      · exact T.char_inj c '.' (h c List.mem_cons_self) (by decide)
      · rintro rfl
        rfl
    rw [hc]
    obtain ⟨first, others, hsplit⟩ := List.exists_cons_of_ne_nil (List.splitOn_ne_nil '.' s)
    split_ifs with hdot
    · simp
    · simp [hsplit]

theorem root_split (f : Family) : IsAscii f.root.toList ∧ (f.root.toList.splitOn '.').length = 3 ∧
    ∀ t ∈ f.root.toList.splitOn '.', IsAscii t ∧ t ≠ ['*'] ∧ t ≠ ['>'] := by
  obtain f | f := f
  · cases f <;> decide
  · cases f <;> decide

variable {f : Family}

theorem root_inj {g : Family} (h : f.root = g.root) : f = g := by
  obtain f | f := f <;> obtain g | g := g <;> cases f <;> cases g <;>
    first | rfl | exact absurd h (by decide)

def rootTokens (f : Family) : List (List α) := T.tokens (T.lit f.root)

theorem rootTokens_inj {g : Family} : T.rootTokens f = T.rootTokens g ↔ f = g := by
  constructor
  · intro h
    apply root_inj
    apply String.toList_inj.mp
    exact T.map_char_inj (root_split f).1 (root_split g).1 (splitOn_inj.mp h)
  · rintro rfl
    rfl

theorem length_rootTokens (f : Family) : (T.rootTokens f).length = 3 := by
  rw [rootTokens, lit, T.tokens_map_char (root_split f).1, List.length_map, (root_split f).2.1]

variable {t : List α}

theorem literal_of_mem_rootTokens (h : t ∈ T.rootTokens f) :
    IsLiteral (T.lit "*") (T.lit ">") t := by
  rw [rootTokens, lit, T.tokens_map_char (root_split f).1] at h
  obtain ⟨word, hword, rfl⟩ := List.mem_map.mp h
  obtain ⟨hascii, hstar, hgt⟩ := (root_split f).2.2 word hword
  constructor
  · intro heq
    exact hstar (T.map_char_inj hascii (by decide) heq)
  · intro heq
    exact hgt (T.map_char_inj hascii (by decide) heq)

theorem wildcards_ne : T.lit "*" ≠ T.lit ">" := by
  intro h
  exact absurd (T.map_char_inj (by decide) (by decide) h) (by decide)

theorem literal_of_token (h : T.isSubjectToken t = true) :
    IsLiteral (T.lit "*") (T.lit ">") t :=
  T.token_literal t h

theorem tokens_token (h : T.isSubjectToken t = true) : T.tokens t = [t] :=
  List.splitOn_eq_singleton (T.token_whole t h)

theorem tokens_star : T.tokens (T.lit "*") = [T.lit "*"] := T.tokens_map_char (s := ['*']) (by decide)

theorem tokens_gt : T.tokens (T.lit ">") = [T.lit ">"] := T.tokens_map_char (s := ['>']) (by decide)

theorem tokens_append (x y : List α) : T.tokens (x ++ T.dot :: y) = T.tokens x ++ T.tokens y :=
  splitOn_append x y

theorem literal_of_event {e : List α} (h : T.isEventName e = true) :
    ∀ t ∈ T.tokens e, IsLiteral (T.lit "*") (T.lit ">") t :=
  fun t ht => T.literal_of_token (T.event_tokens e h t ht)

end Script

attribute [local simp] Filter.orgId Filter.entityId Filter.event Publish.event

section built

variable {α : Type} [DecidableEq α] {T : Script α}

variable {v s : List α} {f : List α → Except (SubjectTokenError α) (List α)}

theorem of_assertToken {role : Role} (h : T.assertToken role v >>= f = .ok s) :
    T.isSubjectToken v = true ∧ f v = .ok s := by
  unfold Script.assertToken at h
  split at h
  · rename_i hv
    exact ⟨hv, h⟩
  · cases h

theorem of_assertEvent (h : T.assertEvent v >>= f = .ok s) : T.isEventName v = true ∧ f v = .ok s := by
  unfold Script.assertEvent at h
  split at h
  · rename_i hv
    exact ⟨hv, h⟩
  · cases h

def Publish.more (T : Script α) : Publish α → List (List α)
  | .entity _ _ entityId event => entityId :: T.tokens event
  | .org _ _ => []

variable {p : Publish α}

theorem Publish.tokens_build {s : List α} (h : p.build T = .ok s) :
    T.tokens s = T.rootTokens p.family ++ p.orgId :: p.more T := by
  cases p with
  | entity f orgId entityId event =>
    have hbuild : T.entitySubject f orgId entityId event = .ok s := by
      cases f <;> exact h
    obtain ⟨htoken, hrest⟩ := of_assertToken hbuild
    obtain ⟨htoken', hmore⟩ := of_assertToken hrest
    obtain ⟨-, hlast⟩ := of_assertEvent hmore
    cases hlast
    rw [T.tokens_append, T.tokens_append, T.tokens_append, T.tokens_token htoken,
      T.tokens_token htoken', List.append_assoc, List.append_assoc]
    rfl
  | org f orgId =>
    have hbuild : T.orgSubject f orgId = .ok s := by
      cases f <;> exact h
    obtain ⟨htoken, hlast⟩ := of_assertToken hbuild
    cases hlast
    rw [T.tokens_append, T.tokens_token htoken]
    rfl

def Filter.tail (T : Script α) : Filter α → List (List α)
  | .all _ => [T.lit ">"]
  | .inOrg _ orgId => [orgId, T.lit ">"]
  | .entity _ orgId entityId => [orgId, entityId, T.lit ">"]
  | .eventInOrg _ orgId event => orgId :: T.lit "*" :: T.tokens event
  | .callEvent event => T.lit "*" :: T.lit "*" :: T.tokens event
  | .allOrgs _ => [T.lit "*"]
  | .org _ orgId => [orgId]

structure Filter.Valid (T : Script α) (filter : Filter α) : Prop where
  org : ∀ orgId ∈ filter.orgId, T.isSubjectToken orgId = true
  entity : ∀ entityId ∈ filter.entityId, T.isSubjectToken entityId = true
  event : ∀ event ∈ filter.event, T.isEventName event = true

variable {filter : Filter α} {text : List α}

theorem Filter.tokens_build (h : filter.build T = .ok text) :
    filter.Valid T ∧ T.tokens text = T.rootTokens filter.family ++ filter.tail T := by
  cases filter with
  | all f =>
    have hbuild : T.familyFilter f = text := by
      cases f <;> exact Except.ok.inj h
    cases hbuild
    refine ⟨⟨by simp [orgId], by simp [entityId], by simp [event]⟩, ?_⟩
    rw [Script.familyFilter, T.tokens_append, T.tokens_gt]
    rfl
  | inOrg f orgId =>
    have hbuild : T.inOrgFilter f orgId = .ok text := by
      cases f <;> exact h
    obtain ⟨htoken, hlast⟩ := of_assertToken hbuild
    cases hlast
    refine ⟨⟨by simpa using htoken, by simp [entityId], by simp [event]⟩, ?_⟩
    rw [T.tokens_append, T.tokens_append, T.tokens_token htoken, T.tokens_gt, List.append_assoc]
    rfl
  | entity f orgId entityId =>
    have hbuild : T.entityFilter f orgId entityId = .ok text := by
      cases f <;> exact h
    obtain ⟨htoken, hrest⟩ := of_assertToken hbuild
    obtain ⟨htoken', hlast⟩ := of_assertToken hrest
    cases hlast
    refine ⟨⟨by simpa using htoken, by simpa using htoken',
      by simp [event]⟩, ?_⟩
    rw [T.tokens_append, T.tokens_append, T.tokens_append, T.tokens_token htoken,
      T.tokens_token htoken', T.tokens_gt, List.append_assoc, List.append_assoc]
    rfl
  | eventInOrg f orgId event =>
    have hbuild : T.eventInOrgFilter f orgId event = .ok text := by
      cases f <;> exact h
    obtain ⟨htoken, hrest⟩ := of_assertToken hbuild
    obtain ⟨hevent, hlast⟩ := of_assertEvent hrest
    cases hlast
    refine ⟨⟨by simpa using htoken, by simp [entityId],
      by simpa using hevent⟩, ?_⟩
    rw [T.tokens_append, T.tokens_append, T.tokens_append, T.tokens_token htoken, T.tokens_star,
      List.append_assoc, List.append_assoc]
    rfl
  | callEvent event =>
    obtain ⟨hevent, hlast⟩ := of_assertEvent h
    cases hlast
    refine ⟨⟨by simp [orgId], by simp [entityId], by simpa using hevent⟩, ?_⟩
    rw [T.tokens_append, T.tokens_append, T.tokens_append, T.tokens_star, List.append_assoc,
      List.append_assoc]
    rfl
  | allOrgs f =>
    have hbuild : T.anyOrgFilter f = text := by
      cases f <;> exact Except.ok.inj h
    cases hbuild
    refine ⟨⟨by simp [orgId], by simp [entityId], by simp [event]⟩, ?_⟩
    rw [Script.anyOrgFilter, T.tokens_append, T.tokens_star]
    rfl
  | org f orgId =>
    have hbuild : T.orgSubject f orgId = .ok text := by
      cases f <;> exact h
    obtain ⟨htoken, hlast⟩ := of_assertToken hbuild
    cases hlast
    refine ⟨⟨by simpa using htoken, by simp [entityId], by simp [event]⟩, ?_⟩
    rw [T.tokens_append, T.tokens_token htoken]
    rfl

theorem matchTokens_tail (hvalid : filter.Valid T) (hfamily : filter.family = p.family) :
    matchTokens (T.lit "*") (T.lit ">") (filter.tail T) (p.orgId :: p.more T) = true ↔
      filter.Selects p := by
  have htoken := fun orgId ho => T.literal_of_token (hvalid.org orgId ho)
  have hentity := fun entityId he => T.literal_of_token (hvalid.entity entityId he)
  have hevent := fun event he => T.literal_of_event (hvalid.event event he)
  cases filter with
  | all f =>
    rw [Filter.tail, matchTokens_rest]
    simp only [List.isEmpty_cons, Bool.not_false, true_iff]
    exact ⟨hfamily, by simp, by simp, by simp⟩
  | inOrg f orgId =>
    cases p with
    | org g orgId' => cases hfamily
    | entity g orgId' entityId event =>
      rw [Filter.tail, matchTokens_literal_cons (htoken orgId rfl), matchTokens_rest]
      simp only [Publish.more, List.isEmpty_cons, Bool.not_false, Bool.and_true, decide_eq_true_eq]
      constructor
      · intro horg
        exact ⟨hfamily, by simpa using horg.symm, by simp,
          by simp⟩
      · intro h
        exact (h.org orgId rfl).symm
  | entity f orgId entityId =>
    cases p with
    | org g orgId' => cases hfamily
    | entity g orgId' entityId' event =>
      rw [Filter.tail, matchTokens_literal_cons (htoken orgId rfl), Publish.more,
        matchTokens_literal_cons (hentity entityId rfl), matchTokens_rest]
      have hsome : (T.tokens event).isEmpty = false := by
        simp [Script.tokens, List.splitOn_ne_nil]
      simp only [hsome, Bool.not_false, Bool.and_true, Bool.and_eq_true, decide_eq_true_eq]
      constructor
      · rintro ⟨horg, rfl⟩
        exact ⟨hfamily, by simpa using horg.symm,
          by simp [Publish.entityId], by simp⟩
      · intro h
        exact ⟨(h.org orgId rfl).symm, (Option.some.inj (h.entity entityId rfl)).symm⟩
  | eventInOrg f orgId event =>
    cases p with
    | org g orgId' => cases hfamily
    | entity g orgId' entityId event' =>
      rw [Filter.tail, matchTokens_literal_cons (htoken orgId rfl), Publish.more,
        matchTokens_one_cons T.wildcards_ne, matchTokens_literal (hevent event rfl)]
      simp only [Bool.and_eq_true, decide_eq_true_eq, Script.tokens, splitOn_inj]
      constructor
      · rintro ⟨horg, rfl⟩
        exact ⟨hfamily, by simpa using horg.symm, by simp,
          by simp⟩
      · intro h
        exact ⟨(h.org orgId rfl).symm, (Option.some.inj (h.event event rfl)).symm⟩
  | callEvent event =>
    cases p with
    | org g orgId' => cases hfamily
    | entity g orgId' entityId event' =>
      rw [Filter.tail, matchTokens_one_cons T.wildcards_ne, Publish.more,
        matchTokens_one_cons T.wildcards_ne, matchTokens_literal (hevent event rfl)]
      simp only [decide_eq_true_eq, Script.tokens, splitOn_inj]
      constructor
      · rintro rfl
        exact ⟨hfamily, by simp, by simp,
          by simp⟩
      · intro h
        exact (Option.some.inj (h.event event rfl)).symm
  | allOrgs f =>
    cases p with
    | entity g orgId' entityId event => cases hfamily
    | org g orgId' =>
      rw [Filter.tail, matchTokens_one_cons T.wildcards_ne]
      simp only [matchTokens, Publish.more, List.isEmpty_nil, true_iff]
      exact ⟨hfamily, by simp, by simp, by simp⟩
  | org f orgId =>
    cases p with
    | entity g orgId' entityId event => cases hfamily
    | org g orgId' =>
      rw [Filter.tail, matchTokens_literal_cons (htoken orgId rfl)]
      simp only [Publish.more, matchTokens, List.isEmpty_nil, Bool.and_true, decide_eq_true_eq]
      constructor
      · intro horg
        exact ⟨hfamily, by simpa using horg.symm, by simp,
          by simp⟩
      · intro h
        exact (h.org orgId rfl).symm

theorem matchesSubject_iff {subject : List α}
    (hfilter : filter.build T = .ok text) (hsubject : p.build T = .ok subject) :
    T.matchesSubject text subject = true ↔ filter.Selects p := by
  obtain ⟨hvalid, htext⟩ := Filter.tokens_build hfilter
  have hlength : (T.rootTokens filter.family).length = (T.rootTokens p.family).length := by
    rw [T.length_rootTokens, T.length_rootTokens]
  have hmatch : T.matchesSubject text subject = matchTokens (T.lit "*") (T.lit ">")
      (T.rootTokens filter.family ++ filter.tail T) (T.rootTokens p.family ++ p.orgId :: p.more T) := by
    rw [← htext, ← Publish.tokens_build hsubject]
    rfl
  rw [hmatch, matchTokens_append (fun t ht => T.literal_of_mem_rootTokens ht) hlength,
    Bool.and_eq_true, decide_eq_true_eq, T.rootTokens_inj]
  constructor
  · rintro ⟨hfamily, htail⟩
    exact (matchTokens_tail hvalid hfamily).mp htail
  · intro h
    exact ⟨h.family, (matchTokens_tail hvalid h.family).mpr h⟩

theorem matchesSubject_of_other_org {subject : List α}
    (hfilter : filter.build T = .ok text) (hsubject : p.build T = .ok subject) {orgId : List α}
    (horg : orgId ∈ filter.orgId) (hne : p.orgId ≠ orgId) : T.matchesSubject text subject = false := by
  apply Bool.eq_false_iff.mpr
  intro hmatch
  exact hne (((matchesSubject_iff hfilter hsubject).mp hmatch).org orgId horg)

end built

/-- A filter matches exactly the subjects of its family with the coordinates it
names, and so none of another organization, with the text of either package. -/
theorem filters_select :
    (∀ (filter : Filter CodeUnit) (p : Publish CodeUnit) (text subject : JsString),
      filter.build typescript = .ok text → p.build typescript = .ok subject →
      (typescript.matchesSubject text subject = true ↔ filter.Selects p) ∧
      ∀ orgId ∈ filter.orgId, p.orgId ≠ orgId → typescript.matchesSubject text subject = false) ∧
    ∀ (filter : Filter UInt8) (p : Publish UInt8) (text subject : GoBytes),
      filter.build golang = .ok text → p.build golang = .ok subject →
      (golang.matchesSubject text subject = true ↔ filter.Selects p) ∧
      ∀ orgId ∈ filter.orgId, p.orgId ≠ orgId → golang.matchesSubject text subject = false := by
  constructor
  · intro filter p text subject hfilter hsubject
    exact ⟨matchesSubject_iff hfilter hsubject, fun _ => matchesSubject_of_other_org hfilter hsubject⟩
  · intro filter p text subject hfilter hsubject
    exact ⟨matchesSubject_iff hfilter hsubject, fun _ => matchesSubject_of_other_org hfilter hsubject⟩

section samples

variable {α : Type} [DecidableEq α] (T : Script α)

/-- A hangup of a call of organization `a`, and the filters for that event in `a` and in `b`. -/
def sampleHangup : Publish α := .entity .call (T.lit "a") (T.lit "c1") (T.lit "channel.hangup")

def hangupsIn (org : String) : Filter α := .eventInOrg .call (T.lit org) (T.lit "channel.hangup")

theorem filters_select_hangups : typescript.matchesSubject (lit "calls.evt.v1.a.*.channel.hangup")
      (lit "calls.evt.v1.a.c1.channel.hangup") = true ∧
    golang.matchesSubject (golang.lit "calls.evt.v1.b.*.channel.hangup")
      (golang.lit "calls.evt.v1.a.c1.channel.hangup") = false := by
  have hsubject : (sampleHangup typescript).build typescript =
      .ok (lit "calls.evt.v1.a.c1.channel.hangup") := by rfl
  have hsubject' : (sampleHangup golang).build golang =
      .ok (golang.lit "calls.evt.v1.a.c1.channel.hangup") := by rfl
  constructor
  · apply (filters_select.1 (hangupsIn typescript "a") (sampleHangup typescript) _ _ rfl hsubject).1.mpr
    exact ⟨rfl, by simp [hangupsIn, sampleHangup, Publish.orgId],
      by simp [hangupsIn], by simp [hangupsIn, sampleHangup]⟩
  · exact (filters_select.2 (hangupsIn golang "b") (sampleHangup golang) _ _ rfl hsubject').2 _ rfl
      (by decide)

end samples

end OptimiqVoice.Events

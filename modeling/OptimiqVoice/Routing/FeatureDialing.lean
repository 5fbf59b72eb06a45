import OptimiqVoice.Routing.Compile.Run
import Mathlib.Data.List.Pairwise
import Mathlib.Data.List.Sort

namespace OptimiqVoice.Routing

open Lib

/-- The code is dialled: alone where it may be, or with an argument where it takes one. -/
def CompiledFeatureCode.Dialed (entry : CompiledFeatureCode) (dialed : JsString) : Prop :=
  dialed = entry.code ∧ entry.argumentMode ≠ .required ∨
    dialed ≠ entry.code ∧ entry.argumentMode ≠ .none ∧ startsWith dialed entry.code = true

instance (entry : CompiledFeatureCode) (dialed : JsString) : Decidable (entry.Dialed dialed) :=
  inferInstanceAs (Decidable (_ ∨ _))

def CompiledFrom (codes : List FeatureCodeInput) (table : List CompiledFeatureCode) : Prop :=
  (table.map fun c => (c.code, c.argumentMode)).Perm
    (codes.map fun e => (e.code, featureCodeArgumentMode e.action))

theorem matchFeatureCode_eq (table : List CompiledFeatureCode) (dialed : JsString) :
    matchFeatureCode table dialed =
      (table.find? fun c => c.Dialed dialed).map fun c => ⟨c, dialed.drop c.code.length⟩ := by
  induction table with
  | nil => rfl
  | cons entry rest ih =>
    by_cases hd : entry.Dialed dialed
    · rw [List.find?_cons_of_pos (by simpa using hd)]
      obtain ⟨rfl, hmode⟩ | ⟨hne, hmode, hstarts⟩ := hd
      · simp [matchFeatureCode, hmode]
      · simp [matchFeatureCode, hne, hmode, hstarts]
    · rw [List.find?_cons_of_neg (by simpa using hd), ← ih, matchFeatureCode]
      by_cases heq : dialed = entry.code
      · rw [if_pos heq, if_pos (by_contra fun hmode => hd (.inl ⟨heq, hmode⟩))]
      · rw [if_neg heq, if_neg fun harg => hd (.inr ⟨heq, by simpa using harg⟩)]

section clean

/-- No code twice, and none that takes an argument at the head of another. -/
structure Clean (codes : List (JsString × FeatureCodeArgumentMode)) : Prop where
  nodup : (codes.map Prod.fst).Nodup
  apart : ∀ a ∈ codes, ∀ b ∈ codes, a.2 ≠ .none → a.1 <+: b.1 → b.1 = a.1

theorem Clean.perm {l l' : List (JsString × FeatureCodeArgumentMode)} (h : Clean l)
    (hp : l'.Perm l) : Clean l' where
  nodup := (hp.map _).nodup_iff.mpr h.nodup
  apart a ha b hb := h.apart a (hp.subset ha) b (hp.subset hb)

theorem nodup_of_codeIssues {seen : List JsString} {codes : List FeatureCodeInput}
    (h : codeIssues seen codes = []) : (codes.map (·.code)).Nodup ∧ ∀ e ∈ codes, e.code ∉ seen := by
  induction codes generalizing seen with
  | nil => simp
  | cons entry rest ih =>
    rw [codeIssues] at h
    split at h
    · cases h
    · split at h
      · cases h
      · rename_i hnew
        obtain ⟨hnodup, hunseen⟩ := ih h
        constructor
        · rw [List.map_cons, List.nodup_cons]
          refine ⟨?_, hnodup⟩
          intro hin
          obtain ⟨e, he, heq⟩ := List.mem_map.mp hin
          exact hunseen e he (heq ▸ .head _)
        · intro e he
          obtain rfl | he := List.mem_cons.mp he
          · exact hnew
          · exact fun hin => hunseen e he (.tail _ hin)

theorem clean_of_featureCodeIssues {p : Platform} {codes : List FeatureCodeInput}
    (h : featureCodeIssues p codes = []) :
    Clean (codes.map fun e => (e.code, featureCodeArgumentMode e.action)) := by
  obtain ⟨hcodes, hcollisions⟩ := List.append_eq_nil_iff.mp h
  have hperm := codes.perm_insertionSort fun l r => p.localeCompare l.code r.code ≤ 0
  refine Clean.perm ⟨?_, ?_⟩ (hperm.map _).symm
  · simpa [Function.comp_def] using (nodup_of_codeIssues hcodes).1
  · rintro a ha b hb hmode hstarts
    obtain ⟨e, he, rfl⟩ := List.mem_map.mp ha
    obtain ⟨e', he', rfl⟩ := List.mem_map.mp hb
    by_contra hne
    have hnone := List.flatMap_eq_nil_iff.mp hcollisions e he
    rw [collisions, if_neg hmode, List.filterMap_eq_nil_iff] at hnone
    have hno := hnone e' he'
    rw [if_pos (by simpa [startsWith] using ⟨hne, hstarts⟩)] at hno
    cases hno

end clean

section table

variable {table : List CompiledFeatureCode} {dialed : JsString}
  (h : Clean (table.map fun c => (c.code, c.argumentMode)))

include h

theorem Clean.eq_of_startsWith {a b : CompiledFeatureCode} (ha : a ∈ table) (hb : b ∈ table)
    (hmode : a.argumentMode ≠ .none) (hstarts : a.code <+: b.code) : b.code = a.code :=
  h.apart (a.code, a.argumentMode) (List.mem_map_of_mem ha) (b.code, b.argumentMode)
    (List.mem_map_of_mem hb) hmode hstarts

/-- Of two codes that are dialled by one string, the shorter would take the rest
of the longer for its argument. -/
theorem Clean.code_eq {a b : CompiledFeatureCode} (ha : a ∈ table) (hb : b ∈ table)
    (hda : a.Dialed dialed) (hdb : b.Dialed dialed) : a.code = b.code := by
  obtain ⟨rfl, -⟩ | ⟨-, hma, hsa⟩ := hda
  · obtain ⟨heq, -⟩ | ⟨-, hmb, hsb⟩ := hdb
    · exact heq
    · exact h.eq_of_startsWith hb ha hmb (List.isPrefixOf_iff_prefix.mp hsb)
  · obtain ⟨rfl, -⟩ | ⟨-, hmb, hsb⟩ := hdb
    · exact (h.eq_of_startsWith ha hb hma (List.isPrefixOf_iff_prefix.mp hsa)).symm
    · obtain hle | hle := List.prefix_or_prefix_of_prefix (List.isPrefixOf_iff_prefix.mp hsa)
        (List.isPrefixOf_iff_prefix.mp hsb)
      · exact (h.eq_of_startsWith ha hb hma hle).symm
      · exact h.eq_of_startsWith hb ha hmb hle

theorem Clean.codes_nodup : (table.map (·.code)).Nodup := by
  have hnodup := h.nodup
  rw [List.map_map] at hnodup
  exact hnodup

theorem Clean.pairwise : table.Pairwise fun a b => ¬(a.Dialed dialed ∧ b.Dialed dialed) := by
  refine (List.Pairwise.and_mem.mp (List.pairwise_map.mp h.codes_nodup)).imp ?_
  rintro a b ⟨ha, hb, hne⟩ ⟨hda, hdb⟩
  exact hne (h.code_eq ha hb hda hdb)

theorem Clean.matchFeatureCode {entry : CompiledFeatureCode} (he : entry ∈ table)
    (hd : entry.Dialed dialed) :
    Routing.matchFeatureCode table dialed = some ⟨entry, dialed.drop entry.code.length⟩ := by
  rw [matchFeatureCode_eq]
  obtain ⟨found, hfound⟩ : ∃ found, table.find? (fun c => c.Dialed dialed) = some found :=
    Option.isSome_iff_exists.mp (List.find?_isSome.mpr ⟨entry, he, by simpa using hd⟩)
  have hfd : found.Dialed dialed := by simpa using List.find?_some hfound
  have hmem := List.mem_of_find?_eq_some hfound
  have hsame : found = entry :=
    List.inj_on_of_nodup_map h.codes_nodup hmem he (h.code_eq hmem he hfd hd)
  rw [hfound, hsame]
  rfl

theorem Clean.matchFeatureCode_perm {other : List CompiledFeatureCode} (hp : other.Perm table) :
    Routing.matchFeatureCode other dialed = Routing.matchFeatureCode table dialed := by
  by_cases hsome : ∃ entry ∈ table, entry.Dialed dialed
  · obtain ⟨entry, he, hd⟩ := hsome
    rw [h.matchFeatureCode he hd, (h.perm (hp.map _)).matchFeatureCode (hp.mem_iff.mpr he) hd]
  · have hnone : ∀ l : List CompiledFeatureCode, l.Perm table →
        l.find? (fun c => c.Dialed dialed) = none := by
      intro l hl
      rw [List.find?_eq_none]
      exact fun entry he hd => hsome ⟨entry, hl.mem_iff.mp he, by simpa using hd⟩
    rw [matchFeatureCode_eq, matchFeatureCode_eq, hnone other hp, hnone table (.refl _)]

end table

/-- Where nothing is reported of the codes, a string dials at most one of them, in
whatever order they stand, and each can be dialled. -/
theorem featureCodes_unambiguous (p : Platform) (codes : List FeatureCodeInput)
    (table : List CompiledFeatureCode) (hclean : featureCodeIssues p codes = [])
    (htable : CompiledFrom codes table) :
    (∀ dialed, table.Pairwise fun a b => ¬(a.Dialed dialed ∧ b.Dialed dialed)) ∧
      (∀ other : List CompiledFeatureCode, other.Perm table → ∀ dialed,
        matchFeatureCode other dialed = matchFeatureCode table dialed) ∧ ∀ entry ∈ table,
        (entry.argumentMode ≠ .required → matchFeatureCode table entry.code = some ⟨entry, []⟩) ∧
          (entry.argumentMode ≠ .none → ∀ argument ≠ [],
            matchFeatureCode table (entry.code ++ argument) = some ⟨entry, argument⟩) := by
  have h := (clean_of_featureCodeIssues hclean).perm htable
  refine ⟨fun _ => h.pairwise, fun _ hp _ => h.matchFeatureCode_perm hp, fun entry he => ⟨?_, ?_⟩⟩
  · intro hmode
    simpa using h.matchFeatureCode he (.inl ⟨rfl, hmode⟩)
  · intro hmode argument harg
    have hd : entry.Dialed (entry.code ++ argument) :=
      .inr ⟨by simpa using harg, hmode, by simp [startsWith]⟩
    simpa using h.matchFeatureCode he hd

/-- Pick up in the group, and the intercom whose code goes on where that one ends. -/
def sampleCodes : List FeatureCodeInput :=
  [⟨lit "f1", true, lit "*8", .groupPickup, .null, .null⟩,
    ⟨lit "f2", true, lit "*80", .intercom, .null, .null⟩]

def sampleTable : List CompiledFeatureCode :=
  [⟨lit "f2", lit "*80", .intercom, .required, none, none, lit "feature-code:f2"⟩,
    ⟨lit "f1", lit "*8", .groupPickup, .none, none, none, lit "feature-code:f1"⟩]

theorem sampleCodes_unambiguous : matchFeatureCode sampleTable.reverse (lit "*80101") =
      matchFeatureCode sampleTable (lit "*80101") :=
  (featureCodes_unambiguous Compile.samplePlatform sampleCodes sampleTable (by decide)
    (List.Perm.swap _ _ [])).2.1 _ sampleTable.reverse_perm _

end OptimiqVoice.Routing

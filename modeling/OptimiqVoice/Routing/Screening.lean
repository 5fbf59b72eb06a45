import OptimiqVoice.Routing.Compile.Outcome

namespace OptimiqVoice.Routing

open Lib Compile

/-- An exact number ranks before every start of a number, a longer start before
a shorter one, and a regular expression last. -/
def screeningRank (row : CallBlockRuleInput) : Lex (Nat × Int) :=
  match row.matchKind with
  | .exact => toLex (0, 0)
  | .prefixed => toLex (1, -(row.pattern.length : Int))
  | .regex => toLex (2, 0)

/-- Among rows of one rank those that allow come first, then the smaller id. -/
def screeningOrder (row : CallBlockRuleInput) : Lex (Lex (Nat × Int) × Lex (Int × JsString)) :=
  toLex (screeningRank row, toLex (if row.action = .allow then 0 else 1, row.id))

/-- An enabled row for the direction whose pattern matches the number. -/
structure Screened (p : Platform) (number : JsString) (direction : CallBlockDirection)
    (row : CallBlockRuleInput) : Prop where
  enabled : row.enabled = true
  direction : row.direction = direction ∨ row.direction = .both
  pattern : match row.matchKind with
    | .exact => row.pattern = number
    | .prefixed => row.pattern <+: number
    | .regex => (p.regexExec row.pattern number).isSome = true

section rows

variable {p : Platform} {row row' : CallBlockRuleInput} {rule rule' : CompiledCallBlockRule}

attribute [local simp] compilePattern blockMatchKind

theorem Compile.ScreensFor.length_le (h : ScreensFor p row rule) (hk : row.matchKind = .prefixed) :
    row.pattern.length ≤ maxPatternLength := by
  by_contra hlong
  have hissue := h.usable (.patternTooLong row.pattern.length) (by
    simp [hk, lengthIssues, Nat.lt_of_not_le hlong])
  cases hissue

theorem screeningRank_cmp (h : ScreensFor p row rule) (h' : ScreensFor p row' rule') :
    (patternSpecificity rule'.pattern < patternSpecificity rule.pattern →
      screeningRank row < screeningRank row') ∧
    (patternSpecificity rule'.pattern = patternSpecificity rule.pattern →
      screeningRank row = screeningRank row') := by
  have hlen := h.length_le
  have hlen' := h'.length_le
  rw [h.rule_eq, h'.rule_eq]
  unfold screeningRank maxPatternLength at *
  cases hk : row.matchKind <;> cases hk' : row'.matchKind <;>
    simp [patternSpecificity, maxPatternLength,
      Prod.Lex.toLex_lt_toLex, hk, hk'] at * <;> omega

theorem screeningOrder_le (h : ScreensFor p row rule) (h' : ScreensFor p row' rule')
    (hle : callBlockOrder rule ≤ callBlockOrder rule') :
    screeningOrder row ≤ screeningOrder row' := by
  obtain ⟨hlt, heq⟩ := screeningRank_cmp h h'
  rw [callBlockOrder, callBlockOrder, Prod.Lex.toLex_le_toLex] at hle
  rw [screeningOrder, screeningOrder, Prod.Lex.toLex_le_toLex]
  refine hle.imp (fun hle => hlt (by omega)) fun hle => ⟨heq (by omega), ?_⟩
  simpa only [h.rule_eq, h'.rule_eq, allowFirst] using hle.2

variable {number : JsString} {direction : CallBlockDirection}

def concerns (p : Platform) (number : JsString) (direction : CallBlockDirection)
    (rule : CompiledCallBlockRule) : Bool :=
  (rule.direction = direction || rule.direction = .both) &&
    (matchPattern p rule.pattern number).isSome

theorem concerns_iff (h : ScreensFor p row rule) (hen : row.enabled = true) :
    concerns p number direction rule = true ↔ Screened p number direction row := by
  rw [concerns, Bool.and_eq_true, h.rule_eq]
  constructor
  · rintro ⟨hd, hm⟩
    refine ⟨hen, by simpa using hd, ?_⟩
    cases hk : row.matchKind <;>
      simpa [hk, matchPattern, startsWith] using hm
  · rintro ⟨-, hd, hm⟩
    refine ⟨by simpa using hd, ?_⟩
    cases hk : row.matchKind <;>
      simpa [hk, matchPattern, startsWith] using hm

end rows

/-- What screening a number is for: the answer is the first of the rows that
match, and there is none only when no row does. -/
def ScreensFirst (p : Platform) (w : OrgRoutingSnapshot) (artifact : RoutingArtifact)
    (number : JsString) (direction : CallBlockDirection) : Prop :=
  match checkCallBlock p artifact.callBlock (some number) direction with
  | none => ∀ row ∈ w.callBlockRules, ¬Screened p number direction row
  | some rule => ∃ row ∈ w.callBlockRules, Screened p number direction row ∧
      ScreensFor p row rule ∧ ∀ row' ∈ w.callBlockRules, Screened p number direction row' →
        screeningOrder row ≤ screeningOrder row'

theorem screensFirst (p : Platform) (w : OrgRoutingSnapshot) (compiledAt : JsString)
    (artifact : RoutingArtifact) (diagnostics : List Diagnostic)
    (hrun : run p w compiledAt = some (.ok artifact diagnostics)) (number : JsString)
    (hnumber : number ≠ []) (direction : CallBlockDirection) :
    ScreensFirst p w artifact number direction := by
  obtain ⟨tables, s, h⟩ := run_ok hrun
  have hmirror := h.compiled.mirror.callBlock.rules.resolve_left h.errorFree
  have himage : ∀ row ∈ w.callBlockRules, Screened p number direction row →
      ∃ rule ∈ tables.callBlock, ScreensFor p row rule ∧ concerns p number direction rule = true := by
    intro row hrow hs
    obtain ⟨rule, hrule, hfor⟩ := hmirror.image row hrow hs.enabled
    exact ⟨rule, hrule, hfor, (concerns_iff hfor hs.enabled).mpr hs⟩
  have hcheck : checkCallBlock p artifact.callBlock (some number) direction =
      tables.callBlock.find? (concerns p number direction) := by
    rw [h.artifact_eq, checkCallBlock, if_neg (by simpa using hnumber)]
    rfl
  rw [ScreensFirst, hcheck]
  obtain hall | ⟨passed, rule, rest, heq, hpassed, hrule, hleast⟩ := first_of_pairwise
    (fun rule => ¬concerns p number direction rule = true) h.compiled.mirror.callBlock.ordered
  · rw [List.find?_eq_none.mpr hall]
    intro row hrow hs
    obtain ⟨rule, hrule, -, htest⟩ := himage row hrow hs
    exact hall rule hrule htest
  · rw [not_not] at hrule
    rw [heq, List.find?_append, List.find?_eq_none.mpr hpassed, Option.none_or,
      List.find?_cons_of_pos hrule]
    obtain ⟨row, hrow, hen, hfor⟩ := hmirror.origin rule (by simp [heq])
    refine ⟨row, hrow, (concerns_iff hfor hen).mp hrule, hfor, fun row' hrow' hs => ?_⟩
    obtain ⟨rule', hrule', hfor', htest⟩ := himage row' hrow' hs
    exact screeningOrder_le hfor hfor' (hleast rule' hrule' (not_not.mpr htest))

section sample

/-- An organization that blocks a country, allows one of its areas and blocks the rest. -/
def screeningOrg : OrgRoutingSnapshot :=
  { sampleOrg with callBlockRules :=
      [⟨lit "b1", true, lit "+1", .prefixed, .inbound, .block, .absent⟩,
        ⟨lit "b2", true, lit "+1202", .prefixed, .both, .allow, .absent⟩,
        ⟨lit "b3", true, lit "^.*$", .regex, .both, .block, .absent⟩] }

/-- The only regular expression of the organization matches every string. -/
def screeningPlatform : Platform := { samplePlatform with regexExec := fun _ _ => some [] }

theorem exists_run_screeningOrg : ∃ artifact diagnostics,
    run screeningPlatform screeningOrg (lit "now") = some (.ok artifact diagnostics) := by
  obtain ⟨artifact, diagnostics, hrun, -⟩ := exists_of_okWith (fun _ => true)
    (run screeningPlatform screeningOrg (lit "now")) (by decide)
  exact ⟨artifact, diagnostics, hrun⟩

theorem screensFirst_screeningOrg : ∃ artifact diagnostics,
    run screeningPlatform screeningOrg (lit "now") = some (.ok artifact diagnostics) ∧
      ScreensFirst screeningPlatform screeningOrg artifact (lit "+12025550100") .inbound := by
  obtain ⟨artifact, diagnostics, hrun⟩ := exists_run_screeningOrg
  exact ⟨artifact, diagnostics, hrun, screensFirst _ _ _ _ _ hrun _ (by decide) _⟩

/-- A caller without a number is not screened, although the expression matches. -/
theorem emptyNumber_unscreened : ∃ artifact diagnostics,
    run screeningPlatform screeningOrg (lit "now") = some (.ok artifact diagnostics) ∧
      ¬ScreensFirst screeningPlatform screeningOrg artifact [] .inbound := by
  obtain ⟨artifact, diagnostics, hrun⟩ := exists_run_screeningOrg
  refine ⟨artifact, diagnostics, hrun, fun h => ?_⟩
  exact h ⟨lit "b3", true, lit "^.*$", .regex, .both, .block, .absent⟩ (by simp [screeningOrg])
    ⟨rfl, .inr rfl, rfl⟩

end sample

/-- The tables say what the enabled rows say, in search order. -/
structure RowsMirrored (p : Platform) (w : OrgRoutingSnapshot) (r : RoutingArtifact) : Prop where
  inbound : Prog.Mirrored (AnswersFor p w) (·.enabled) w.inboundRoutes r.inbound.rules
  outbound : Prog.Mirrored (DialsFor p w) (·.enabled) w.outboundRoutes r.outbound.rules
  callBlock : Prog.Mirrored (ScreensFor p) (·.enabled) w.callBlockRules r.callBlock
  inOrder : r.inbound.rules.Pairwise (inboundOrder · ≤ inboundOrder ·) ∧
    r.outbound.rules.Pairwise (outboundOrder · ≤ outboundOrder ·) ∧
    r.callBlock.Pairwise (callBlockOrder · ≤ callBlockOrder ·)
  numbers : DistinctNumbers w

theorem rowsMirrored {p : Platform} {w : OrgRoutingSnapshot} {compiledAt : JsString}
    {artifact : RoutingArtifact} {diagnostics : List Diagnostic}
    (hrun : run p w compiledAt = some (.ok artifact diagnostics)) : RowsMirrored p w artifact := by
  obtain ⟨tables, s, h⟩ := run_ok hrun
  obtain ⟨hin, hout, hblock⟩ := h.compiled.mirror
  rw [h.artifact_eq]
  exact ⟨hin.rules.resolve_left h.errorFree, hout.rules.resolve_left h.errorFree,
    hblock.rules.resolve_left h.errorFree, ⟨hin.ordered, hout.ordered, hblock.ordered⟩, h.distinctNumbers⟩

theorem rowsMirrored_screeningOrg : ∃ artifact diagnostics,
    run screeningPlatform screeningOrg (lit "now") = some (.ok artifact diagnostics) ∧
      RowsMirrored screeningPlatform screeningOrg artifact :=
  exists_run_screeningOrg.imp fun _ h => h.imp fun _ hrun => ⟨hrun, rowsMirrored hrun⟩

end OptimiqVoice.Routing

import OptimiqVoice.Routing.Compile.Checks

namespace OptimiqVoice.Routing.Compile

open Lib

/-- What the passes hand over to the artifact besides the compiler's state. -/
structure Tables where
  settings : CompiledRoutingSettings
  inbound : InboundMatchTable
  internal : InternalMatchTable
  outbound : OutboundMatchTable
  callBlock : List CompiledCallBlockRule
  extensionsByNumber : Record ExtensionIndexEntry

variable (p : Platform) (s : OrgRoutingSnapshot)

def prepare (ix : Index) : Compiler CompiledRoutingSettings := do
  indexVoicemailGreetings s ix
  ensureWellKnownTerminals
  let settings ← compileSettings p s
  compileTimeConditions p s ix
  materialiseEntities p s ix
  pure settings

def compileTables (ix : Index) : Compiler Tables := do
  let settings ← prepare p s ix
  let emergency ← compileEmergency s ix
  let internal ← compileInternal p s ix emergency
  let inbound ← compileInbound p s ix
  let outbound ← compileOutbound p s ix settings emergency
  let callBlock ← compileCallBlock p s
  let extensionsByNumber ← compileExtensionIndex p s ix
  pure ⟨settings, inbound, internal, outbound, callBlock, extensionsByNumber⟩

def passes : Compiler Tables := do
  let ix := index s
  let tables ← compileTables p s ix
  compileFollowMe p s ix tables.outbound tables.callBlock
  detectIvrCycles
  assertNodeClosure
  pure tables

inductive CompileResult where
  | ok (artifact : RoutingArtifact) (diagnostics : List Diagnostic)
  | failed (diagnostics : List Diagnostic)

def CompileResult.diagnostics : CompileResult → List Diagnostic
  | .ok _ diagnostics => diagnostics
  | .failed diagnostics => diagnostics

def timeConditionNames (_ : CompiledTimeCondition) : List JsString :=
  [lit "id", lit "name", lit "timezone", lit "rules"]

variable (compiledAt : JsString)

variable (tables : Tables) (state : CompilerState)

def artifactOf : RoutingArtifact where
  artifactVersion := routingArtifactVersion
  organizationId := s.organizationId
  snapshotHash := snapshotHash s
  compiledAt := compiledAt
  settings := tables.settings
  -- No node id is `__proto__`, so the fields of a node never become visible as keys.
  nodes := Record.ofDict (fun _ => []) state.nodes
  timeConditions := Record.ofDict timeConditionNames state.timeConditionsById
  inbound := tables.inbound
  internal := tables.internal
  outbound := tables.outbound
  callBlock := tables.callBlock
  extensionsByNumber := tables.extensionsByNumber
  diagnostics := state.diagnostics

/-- Whether a cached artifact passes for the compilation of a snapshot. -/
def isArtifactFresh (artifact : RoutingArtifact) (s : OrgRoutingSnapshot) : Bool :=
  artifact.organizationId = s.organizationId && artifact.snapshotHash = snapshotHash s

def finish : CompileResult :=
  if state.diagnostics.any (·.isError) then .failed state.diagnostics
  else .ok (artifactOf s compiledAt tables state) state.diagnostics

theorem finish_diagnostics :
    (finish s compiledAt tables state).diagnostics = state.diagnostics := by
  unfold finish
  split <;> rfl

/-- `Compiler.run`. The outer `none` would be a recursion that does not end. -/
def run : Option CompileResult :=
  (passes p s CompilerState.initial).map (fun result => finish s compiledAt result.1 result.2)

/-- The error a malformed input is refused with before anything is compiled. -/
structure SnapshotError where
  (field message : JsString)

def assertSnapshotShape : Except SnapshotError Unit :=
  if s.organizationId.length = 0 then
    .error ⟨lit "organizationId", lit "must be a non-empty string"⟩
  else .ok ()

def normaliseCompiledAt : Except SnapshotError JsString :=
  match p.dateParse compiledAt with
  | none => .error ⟨lit "compiledAt", stringify compiledAt ++ lit " is not an instant"⟩
  | some instant => .ok (p.toISOString instant)

/-- The whole compile: it refuses the input, or runs. -/
def tryCompileRoutingArtifact : Except SnapshotError (Option CompileResult) := do
  assertSnapshotShape s
  let instant ← normaliseCompiledAt p compiledAt
  pure (run p s instant)

/-- A compile that succeeds with an artifact that passes a check. -/
def okWith (check : RoutingArtifact → Bool) : Option CompileResult → Bool
  | some (.ok artifact _) => check artifact
  | _ => false

theorem exists_of_okWith (check : RoutingArtifact → Bool) (result : Option CompileResult)
    (h : okWith check result = true) :
    ∃ artifact diagnostics, result = some (.ok artifact diagnostics) ∧ check artifact = true := by
  unfold okWith at h
  split at h
  · exact ⟨_, _, rfl, h⟩
  · cases h

/-- A small organization on a runtime without regular expressions, for the
statements that need a compile to speak about. -/
def samplePlatform : Platform where
  regexCompileError := fun _ => none
  regexExec := fun _ _ => none
  localeCompare := fun a b => if a = b then 0 else if a ≤ b then -1 else 1
  isKnownTimezone := fun _ => true
  formatToParts := fun _ _ => ⟨2026, 1, 5, 9, 30, 1⟩
  dateParse := fun _ => some 0
  toISOString := fun _ => lit "1970-01-01T00:00:00.000Z"

variable (id : JsString)

def sampleExtension (number : JsString) (followMe : Nullable FollowMeInput) :
    ExtensionInput where
  id := id
  enabled := true
  number := number
  label := number
  callerIdName := .absent
  callerIdNumber := .absent
  outboundCallerIdName := .absent
  outboundCallerIdNumber := .absent
  emergencyCallerIdNumber := .absent
  voicemailEnabled := false
  doNotDisturb := false
  forwardAllEnabled := false
  forwardAllDestination := .absent
  forwardBusyEnabled := false
  forwardBusyDestination := .absent
  forwardNoAnswerEnabled := false
  forwardNoAnswerDestination := .absent
  forwardUnregisteredEnabled := false
  forwardUnregisteredDestination := .absent
  followMe := followMe
  pickupGroup := .absent
  recordPolicy := .none
  mohClassId := .absent
  tollClass := .national
  callTimeoutSeconds := 30

def sampleTrunk (name : JsString) : TrunkInput where
  id := id
  enabled := true
  name := name
  kind := .ipAuth
  sipDomain := lit "sip.carrier"
  sipProxy := lit "sip.carrier"
  outboundProxy := .absent
  transport := .udp
  codecPrefs := .absent
  maxChannels := .absent
  callerIdNumberOverride := .absent

def sampleRoute (pattern trunk : JsString) : OutboundRouteInput where
  id := id
  enabled := true
  name := id
  priority := 10
  matchKind := .prefixed
  dialPatterns := [pattern]
  stripDigits := 0
  prependDigits := .absent
  tollClass := .national
  trunkPriority := [⟨trunk, 0, none⟩]
  timeConditionId := .absent
  failover := ⟨.absent, .absent, .absent⟩
  callerIdNumberOverride := .absent
  recordEnabled := false

def sampleNumber (e164 : JsString) (emergencyAddressId : Nullable JsString) :
    PhoneNumberInput where
  id := id
  enabled := true
  e164 := e164
  label := .absent
  callerIdNamePrefix := .absent
  recordEnabled := false
  voiceEnabled := true
  emergencyAddressId := emergencyAddressId
  destination := ⟨.hangup, .absent, .absent⟩

def sampleOrg : OrgRoutingSnapshot :=
  { emptySnapshot (lit "acme") with
    extensions :=
      [sampleExtension (lit "e1") (lit "101")
        (.val ⟨true, none, .val [⟨.val (lit "2025550123"), none, none, none⟩]⟩),
       sampleExtension (lit "e2") (lit "102") .absent]
    trunks := [sampleTrunk (lit "t2") (lit "backup"), sampleTrunk (lit "t1") (lit "main")]
    outboundRoutes := [sampleRoute (lit "r1") (lit "202") (lit "t1")] }

end OptimiqVoice.Routing.Compile

import OptimiqVoice.Routing.Patterns
import OptimiqVoice.Routing.Snapshot

namespace OptimiqVoice.Routing

open Lib

inductive FeatureCodeArgumentMode where
  | none | optional | required
deriving DecidableEq

def featureCodeArgumentMode : FeatureCodeAction → FeatureCodeArgumentMode
  | .voicemailCheck => .none
  | .voicemailDirect => .required
  | .voicemailRecordGreeting => .none
  | .callPark => .optional
  | .callPickup => .required
  | .groupPickup => .none
  | .callForwardAll => .optional
  | .callForwardBusy => .optional
  | .callForwardNoAnswer => .optional
  | .doNotDisturb => .none
  | .followMe => .none
  | .intercom => .required
  | .paging => .required
  | .recordToggle => .none
  | .redial => .none
  | .echoTest => .none
  | .queueToggle => .optional
  | .agentStatus => .optional
  | .eavesdrop => .required
  | .transfer => .required

inductive FeatureCodeIssue where
  | malformedCode (value : JsString)
  | duplicateCode (value : JsString)
  | prefixCollision (value other : JsString)

def FeatureCodeIssue.value : FeatureCodeIssue → JsString
  | .malformedCode value => value
  | .duplicateCode value => value
  | .prefixCollision value _ => value

/-- A star or hash followed by at most nine dial symbols. -/
def isWellFormedFeatureCode (code : JsString) : Bool :=
  match code with
  | [] => false
  | u :: rest => (u = unit '*' || u = unit '#') && rest.all isDialUnit && rest.length ≤ 9

def codeIssues : List JsString → List FeatureCodeInput → List FeatureCodeIssue
  | _, [] => []
  | seen, entry :: rest =>
    if !isWellFormedFeatureCode entry.code then .malformedCode entry.code :: codeIssues seen rest
    else if entry.code ∈ seen then .duplicateCode entry.code :: codeIssues seen rest
    else codeIssues (entry.code :: seen) rest

def collisions (all : List FeatureCodeInput) (entry : FeatureCodeInput) : List FeatureCodeIssue :=
  if featureCodeArgumentMode entry.action = .none then []
  else all.filterMap (fun other =>
    if other.code ≠ entry.code && startsWith other.code entry.code then
      some (.prefixCollision entry.code other.code)
    else none)

def featureCodeIssues (p : Platform) (codes : List FeatureCodeInput) : List FeatureCodeIssue :=
  let sorted := codes.insertionSort (fun l r => p.localeCompare l.code r.code ≤ 0)
  codeIssues [] sorted ++ sorted.flatMap (collisions sorted)

structure CompiledFeatureCode where
  (id code : JsString)
  action : FeatureCodeAction
  argumentMode : FeatureCodeArgumentMode
  params : Option Args
  label : Option JsString
  nodeId : JsString

structure FeatureCodeMatch where
  featureCode : CompiledFeatureCode
  argument : JsString

def matchFeatureCode : List CompiledFeatureCode → JsString → Option FeatureCodeMatch
  | [], _ => none
  | entry :: rest, dialed =>
    if dialed = entry.code then
      if entry.argumentMode = .required then matchFeatureCode rest dialed
      else some ⟨entry, []⟩
    else if entry.argumentMode ≠ .none && startsWith dialed entry.code then
      some ⟨entry, dialed.drop entry.code.length⟩
    else matchFeatureCode rest dialed

theorem matchFeatureCode_mem {codes : List CompiledFeatureCode} {dialed : JsString}
    {m : FeatureCodeMatch} (h : matchFeatureCode codes dialed = some m) :
    m.featureCode ∈ codes := by
  induction codes with
  | nil => cases h
  | cons entry rest ih =>
    rw [matchFeatureCode] at h
    split at h
    · split at h
      · exact .tail _ (ih h)
      · rw [Option.some.injEq] at h
        exact h ▸ .head _
    · split at h
      · rw [Option.some.injEq] at h
        exact h ▸ .head _
      · exact .tail _ (ih h)

end OptimiqVoice.Routing

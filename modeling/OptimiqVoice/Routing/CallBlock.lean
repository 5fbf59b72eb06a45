import OptimiqVoice.Routing.Artifact

namespace OptimiqVoice.Routing

open Lib

/-- The first rule of the ordered table that applies to a number. -/
def checkCallBlock (p : Platform) (rules : List CompiledCallBlockRule) (value : Option JsString)
    (direction : CallBlockDirection) : Option CompiledCallBlockRule :=
  match value with
  | none => none
  | some value =>
    if value.length = 0 then none
    else rules.find? (fun rule =>
      (rule.direction = direction || rule.direction = .both) &&
        (matchPattern p rule.pattern value).isSome)

end OptimiqVoice.Routing

import OptimiqVoice.Lib.Text

namespace OptimiqVoice.Engine

open Lib

structure MediaRefSettings where
  (promptPrefix objectMediaRoot : JsString)

def defaultMediaRefSettings : MediaRefSettings := ⟨lit "sound:", []⟩

def nativeSchemes : List JsString :=
  [lit "sound:", lit "recording:", lit "number:", lit "digits:", lit "characters:", lit "tone:"]

def stripExtension (path : JsString) : JsString :=
  match path.reverse.dropWhile (fun u => u ≠ unit '.' && u ≠ unit '/') with
  | u :: rest => if u = unit '.' then rest.reverse else path
  | [] => path

def isSlash (u : CodeUnit) : Bool := u = unit '/'

def objectMedia (objectKey : JsString) (settings : MediaRefSettings) : Option JsString :=
  let root := ((trim settings.objectMediaRoot).reverse.dropWhile isSlash).reverse
  let key := (trim objectKey).dropWhile isSlash
  if root.isEmpty || key.isEmpty then none
  else if lit ".." ∈ split (unit '/') key then none
  else some (lit "sound:" ++ stripExtension (root ++ lit "/" ++ key))

def translateMediaRef (ref : JsString) (settings : MediaRefSettings) : Option JsString :=
  let trimmed := trim ref
  if trimmed.isEmpty then none
  else if !trimmed.tails.any (startsWith · (lit "://")) && nativeSchemes.any (startsWith trimmed) then some trimmed
  else if startsWith trimmed (lit "prompt://") then some (settings.promptPrefix ++ trimmed.drop 9)
  else if startsWith trimmed (lit "tone://") then some (lit "tone:" ++ trimmed.drop 7)
  else if startsWith trimmed (lit "file://") then
    some (lit "sound:" ++ stripExtension (trimmed.drop 7))
  else if startsWith trimmed (lit "object://") then objectMedia (trimmed.drop 9) settings
  else none

def nonBlank (s : Option JsString) : Option JsString := (s.map trim).filter (fun t => !t.isEmpty)

def resolveMediaRef (media promptId : Option JsString) (settings : MediaRefSettings) :
    Option JsString :=
  match nonBlank media with
  | some ref => translateMediaRef ref settings
  | none => (nonBlank promptId).map (settings.promptPrefix ++ ·)

example : translateMediaRef (lit "object://org/../x.wav") ⟨lit "sound:", lit "/srv/"⟩ = none ∧
    translateMediaRef (lit "object:///org/x.wav") ⟨lit "sound:", lit "/srv/"⟩ =
      some (lit "sound:/srv/org/x") := by
  decide

end OptimiqVoice.Engine

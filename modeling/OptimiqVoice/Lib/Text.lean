import Mathlib.Algebra.GroupWithZero.Nat
import Mathlib.Data.List.Lex
import Mathlib.Order.Fin.Basic

namespace OptimiqVoice.Lib

/-- JavaScript strings are sequences of sixteen-bit code units. Lists of them
carry the lexicographic order that the `<` of the language uses on strings. -/
abbrev CodeUnit := Fin 65536
abbrev JsString := List CodeUnit

instance CodeUnit.neZero : NeZero 65536 := ⟨by decide⟩
instance : LawfulBEq CodeUnit := inferInstance
instance : LawfulBEq JsString := inferInstance

def unit (c : Char) : CodeUnit := Fin.ofNat _ c.toNat

/-- A literal of the source, whose characters all lie in the basic plane. -/
def lit (s : String) : JsString := s.toList.map unit

variable (s : JsString)

def quoted : JsString := lit "\"" ++ s ++ lit "\""

def natText (n : Nat) : JsString := (Nat.toDigits 10 n).map unit

def intText (i : Int) : JsString :=
  match i with
  | .ofNat n => natText n
  | .negSucc n => lit "-" ++ natText (n + 1)

def boolText (b : Bool) : JsString := if b then lit "true" else lit "false"

variable (u : CodeUnit)

/-- White space and line terminators, as `trim` removes them. -/
def isSpace : Bool :=
  u ∈ ([9, 10, 11, 12, 13, 32, 160, 5760, 8232, 8233, 8239, 8287, 12288, 65279] : List CodeUnit) ||
    (8192 ≤ u && u ≤ 8202)

def trimStart : JsString := s.dropWhile isSpace

def trim : JsString := (trimStart (trimStart s).reverse).reverse

def startsWith (front : JsString) : Bool := front.isPrefixOf s

def endsWith (back : JsString) : Bool := back.isSuffixOf s

def join (sep : JsString) (parts : List JsString) : JsString := List.intercalate sep parts

def isDigit : Bool := 48 ≤ u && u ≤ 57

def digitValue : Nat := u.val - 48

def digitsValue : Nat := s.foldl (fun acc u => acc * 10 + digitValue u) 0

/-- The integer `n` with `String(Number.parseInt(s, 10)) === s` and
`n = Number.parseInt(s, 10)`: the text must be the canonical decimal form. -/
def canonicalInt : Option Int :=
  let n : Int := digitsValue s
  if s.all isDigit && intText n = s then some n
  else
    let m : Int := -(digitsValue (s.drop 1) : Int)
    if s.head? = some (unit '-') && (s.drop 1).all isDigit && intText m = s then some m else none

def split (sep : CodeUnit) : JsString → List JsString
  | [] => [[]]
  | u :: rest =>
    if u = sep then [] :: split sep rest
    else match split sep rest with
      | [] => [[u]]
      | head :: tail => (u :: head) :: tail

example : trim (lit "  911\t") = lit "911" := by decide

example : canonicalInt (lit "701") = some 701 ∧ canonicalInt (lit "0701") = none := by decide

end OptimiqVoice.Lib

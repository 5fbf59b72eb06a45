import OptimiqVoice.Lib.Text

namespace OptimiqVoice.Lib

/-- The numbers of the language: a double is a rational, the zero below zero,
or no number at all. -/
inductive JsNumber where
  | finite (q : Rat)
  | negZero
  | infinite (negative : Bool)
  | nan

namespace JsNumber

def finite? : JsNumber → Option Rat
  | .finite q => some q
  | .negZero => some 0
  | _ => none

def trunc (q : Rat) : Int := q.num.tdiv q.den

end JsNumber

/-- What `JSON.parse` can return. -/
inductive JsonValue where
  | null
  | bool (b : Bool)
  | num (n : JsNumber)
  | str (s : JsString)
  | arr (items : List JsonValue)
  | obj (fields : List (JsString × JsonValue))

namespace JsonValue

abbrev Fields := List (JsString × JsonValue)

def Fields.get? (fields : Fields) (key : JsString) : Option JsonValue :=
  (fields.find? (·.1 = key)).map (·.2)

def text? : JsonValue → Option JsString
  | .str s => some s
  | _ => none

def object? : JsonValue → Option Fields
  | .obj fields => some fields
  | _ => none

section conversion

variable (numText : JsNumber → JsString)

mutual

/-- `String(value)`. An object that has a `toString` of its own has no function
there, and the conversion throws. -/
def string : JsonValue → Option JsString
  | .null => some (lit "null")
  | .bool b => some (boolText b)
  | .num n => some (numText n)
  | .str s => some s
  | .arr items => (strings items).map (join (lit ","))
  | .obj fields =>
    if fields.any (·.1 = lit "toString") then none else some (lit "[object Object]")

/-- The parts that the `join` of an array is made of: `null` leaves no text. -/
def strings : List JsonValue → Option (List JsString)
  | [] => some []
  | .null :: rest => (strings rest).map (([] : JsString) :: ·)
  | v :: rest => (string v).bind (fun s => (strings rest).map (s :: ·))

end

end conversion

mutual

def allTexts (ok : JsString → Bool) : JsonValue → Bool
  | .str s => ok s
  | .arr items => itemTexts ok items
  | .obj fields => fieldTexts ok fields
  | _ => true

def itemTexts (ok : JsString → Bool) : List JsonValue → Bool
  | [] => true
  | v :: rest => allTexts ok v && itemTexts ok rest

def fieldTexts (ok : JsString → Bool) : List (JsString × JsonValue) → Bool
  | [] => true
  | (key, v) :: rest => ok key && allTexts ok v && fieldTexts ok rest

end

end JsonValue

end OptimiqVoice.Lib

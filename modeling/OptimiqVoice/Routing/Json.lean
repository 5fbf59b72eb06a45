import OptimiqVoice.Lib.Sorting
import OptimiqVoice.Lib.Text

namespace OptimiqVoice.Routing

open Lib

inductive Json where
  | null
  | bool (b : Bool)
  | num (i : Int)
  | str (s : JsString)
  | arr (items : List Json)
  | obj (fields : List (JsString × Json))

/-- A field declared `?: T | null` has three states, and the hash tells them
apart although the compiler does not. -/
inductive Nullable (α : Type) where
  | absent
  | null
  | val (a : α)
deriving DecidableEq

namespace Nullable

variable {α : Type}

def toOption : Nullable α → Option α
  | .val a => some a
  | _ => none

def json (f : α → Json) : Nullable α → Option Json
  | .absent => none
  | .null => some .null
  | .val a => some (f a)

end Nullable

/-- An object literal; fields that are `undefined` are not part of it. -/
def Json.object (fields : List (String × Option Json)) : Json :=
  .obj (fields.filterMap (fun f => f.2.map (fun j => (lit f.1, j))))

def hexDigit (n : Nat) : CodeUnit := if n < 10 then Fin.ofNat _ (48 + n) else Fin.ofNat _ (87 + n)

variable (u : CodeUnit)

def unicodeEscape : JsString :=
  lit "\\u" ++ [hexDigit (u.val / 4096), hexDigit (u.val / 256 % 16), hexDigit (u.val / 16 % 16),
    hexDigit (u.val % 16)]

def isHighSurrogate : Bool := 0xd800 ≤ u && u ≤ 0xdbff
def isLowSurrogate : Bool := 0xdc00 ≤ u && u ≤ 0xdfff

def escapeUnit : JsString :=
  if u = 8 then lit "\\b"
  else if u = 9 then lit "\\t"
  else if u = 10 then lit "\\n"
  else if u = 12 then lit "\\f"
  else if u = 13 then lit "\\r"
  else if u = 34 then lit "\\\""
  else if u = 92 then lit "\\\\"
  else if u < 32 then unicodeEscape u
  else [u]

/-- The body of `JSON.stringify` on a string: lone surrogates are escaped,
pairs are copied. -/
def escapeText : JsString → JsString
  | [] => []
  | [u] => if isHighSurrogate u || isLowSurrogate u then unicodeEscape u else escapeUnit u
  | u :: v :: rest =>
    if isHighSurrogate u && isLowSurrogate v then u :: v :: escapeText rest
    else if isHighSurrogate u || isLowSurrogate u then unicodeEscape u ++ escapeText (v :: rest)
    else escapeUnit u ++ escapeText (v :: rest)

def stringify (s : JsString) : JsString := quoted (escapeText s)

mutual

def canonicalJson : Json → JsString
  | .null => lit "null"
  | .bool b => boolText b
  | .num i => intText i
  | .str s => stringify s
  | .arr items => lit "[" ++ join (lit ",") (writeItems items) ++ lit "]"
  | .obj fields =>
    lit "\x7b" ++ join (lit ",") ((sortOn (·.1) (writeFields fields)).map (·.2)) ++ lit "\x7d"

def writeItems : List Json → List JsString
  | [] => []
  | j :: rest => canonicalJson j :: writeItems rest

/-- Each field with its key, so that the keys can be put in order. -/
def writeFields : List (JsString × Json) → List (JsString × JsString)
  | [] => []
  | (key, j) :: rest => (key, stringify key ++ lit ":" ++ canonicalJson j) :: writeFields rest

end

example : canonicalJson (.object [("b", some (.num 7)), ("a", some (.str (lit "x\"")))]) =
    lit "\x7b\"a\":\"x\\\"\",\"b\":7\x7d" := by decide

end OptimiqVoice.Routing

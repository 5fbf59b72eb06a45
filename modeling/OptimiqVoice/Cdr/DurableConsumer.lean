import OptimiqVoice.Lib.JsonValue

namespace OptimiqVoice.Cdr

open Lib

/-- One value of a chain of causes. The message is there when the value is an
`Error`, the code when the value has one that is a string. -/
structure Cause where
  (message code : Option JsString)

/-- Something thrown, with the causes it wraps, outermost first. -/
structure JsError where
  chain : List Cause
  text : JsString

def JsError.ofMessage (message : JsString) : JsError := ⟨[⟨some message, none⟩], message⟩

/-- What `String` throws on an object it cannot turn into a primitive. -/
def notPrimitive : JsError := .ofMessage (lit "Cannot convert object to primitive value")

/-- PostgreSQL refusing the data rather than being unavailable: a class 22 or
23 code in the first five causes. -/
def isDeterministicDatabaseRejection (error : JsError) : Bool :=
  (error.chain.take 5).any (fun c =>
    c.code.any (fun code => startsWith code (lit "22") || startsWith code (lit "23")))

/-- The messages of the first five causes, as far as they are errors. -/
def describeError (error : JsError) : JsString :=
  let messages := ((error.chain.take 5).takeWhile (·.message.isSome)).filterMap (·.message)
  if messages.isEmpty then error.text else join (lit " | ") messages

def redeliveryDelayMs (attempt : Nat) : Nat := min 30000 (2000 * max 1 attempt)

/-- What the language and the schema library do: numbers as text, `new Date` on
a text in milliseconds, and what the validators of the fields find wrong. -/
structure Platform where
  numText : JsNumber → JsString
  parseDate : JsString → Option Int
  issues : JsonValue → Option JsError

namespace Platform

def string (P : Platform) (value : Option JsonValue) : Except JsError JsString :=
  match value with
  | none => .ok (lit "undefined")
  | some v => (v.string P.numText).elim (.error notPrimitive) .ok

end Platform

end OptimiqVoice.Cdr

import OptimiqVoice.Lib.Text

namespace OptimiqVoice.Routing

open Lib

/-- The calendar fields the runtime's formatter reports for an instant. -/
structure CalendarParts where
  (year month day hour minute weekday : Nat)

/-- What the language runtime provides: regular expressions, collation, the
zone database and dates. Instants are milliseconds since the epoch. -/
structure Platform where
  regexCompileError : JsString → Option JsString
  /-- The capture groups of a match, each with the text it took part in. -/
  regexExec : JsString → JsString → Option (List (Option JsString))
  localeCompare : JsString → JsString → Int
  isKnownTimezone : JsString → Bool
  formatToParts : Int → JsString → CalendarParts
  dateParse : JsString → Option Int
  toISOString : Int → JsString

end OptimiqVoice.Routing

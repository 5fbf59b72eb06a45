import OptimiqVoice.Routing.Platform
import OptimiqVoice.Routing.Snapshot

namespace OptimiqVoice.Routing

open Lib

structure ZonedInstant where
  (day month hour minute weekday weekOfMonth minuteOfDay : Int)
  date : JsString

def pad2 (value : Nat) : JsString := if value < 10 then lit "0" ++ natText value else natText value

def pad4 (value : Nat) : JsString :=
  List.replicate (4 - (natText value).length) (unit '0') ++ natText value

def zonedInstant (p : Platform) (instant : Int) (timezone : JsString) : ZonedInstant :=
  let parts := p.formatToParts instant timezone
  let hour := parts.hour % 24
  { day := parts.day
    month := parts.month
    hour := hour
    minute := parts.minute
    weekday := parts.weekday
    weekOfMonth := ((parts.day : Int) - 1) / 7 + 1
    minuteOfDay := hour * 60 + parts.minute
    date := pad4 parts.year ++ lit "-" ++ pad2 parts.month ++ lit "-" ++ pad2 parts.day }

structure CompiledTimePredicate where
  weekdays : Option (List Int)
  monthDays : Option (List Int)
  months : Option (List Int)
  weeksOfMonth : Option (List Int)
  (timeOfDay dateRange : Option TimeWindow)
deriving DecidableEq

structure CompiledTimeRule where
  id : JsString
  ordinal : Int
  label : Option JsString
  predicates : List CompiledTimePredicate
deriving DecidableEq

inductive TimePredicateIssue where
  | weekdayOutOfRange | monthDayOutOfRange | monthOutOfRange | weekOfMonthOutOfRange
  | malformedTimeOfDay | malformedDate | invertedDateRange | emptyList

def TimePredicateIssue.code : TimePredicateIssue → JsString
  | .weekdayOutOfRange => lit "weekday-out-of-range"
  | .monthDayOutOfRange => lit "month-day-out-of-range"
  | .monthOutOfRange => lit "month-out-of-range"
  | .weekOfMonthOutOfRange => lit "week-of-month-out-of-range"
  | .malformedTimeOfDay => lit "malformed-time-of-day"
  | .malformedDate => lit "malformed-date"
  | .invertedDateRange => lit "inverted-date-range"
  | .emptyList => lit "empty-list"

def minuteOfDayOf (s : JsString) : Option Int :=
  match s with
  | [a, b, colon, c, d] =>
    if colon = unit ':' && isDigit b && isDigit d && unit '0' ≤ c && c ≤ unit '5' &&
        ((a = unit '0' || a = unit '1') || (a = unit '2' && unit '0' ≤ b && b ≤ unit '3')) then
      some ((digitsValue [a, b] * 60 + digitsValue [c, d] : Nat) : Int)
    else none
  | _ => none

def daysInMonth : List Nat := [31, 29, 31, 30, 31, 30, 31, 31, 30, 31, 30, 31]

def isCalendarDate (s : JsString) : Bool :=
  match s with
  | [a, b, c, d, dash, m, n, dash', x, y] =>
    let month := digitsValue [m, n]
    let day := digitsValue [x, y]
    [a, b, c, d, m, n, x, y].all isDigit && dash = unit '-' && dash' = unit '-' &&
      1 ≤ month && month ≤ 12 && 1 ≤ day && day ≤ daysInMonth.getD (month - 1) 0
  | _ => false

def checkList (values : Option (List Int)) (min max : Int) (issue : TimePredicateIssue) :
    List TimePredicateIssue :=
  match values with
  | none => []
  | some [] => [.emptyList]
  | some vs => vs.filterMap (fun v => if v < min || max < v then some issue else none)

def checkTimeOfDay (window : Option TimeWindow) : List TimePredicateIssue :=
  match window with
  | none => []
  | some w => [w.start, w.stop].filterMap
      (fun v => if (minuteOfDayOf v).isSome then none else some .malformedTimeOfDay)

def checkDateRange (range : Option TimeWindow) : List TimePredicateIssue :=
  match range with
  | none => []
  | some w =>
    let malformed := [w.start, w.stop].filterMap
      (fun v => if isCalendarDate v then none else some TimePredicateIssue.malformedDate)
    if malformed.isEmpty && w.stop < w.start then [.invertedDateRange] else malformed

def validateTimePredicate (q : TimeRulePredicateInput) : List TimePredicateIssue :=
  checkList q.weekdays 1 7 .weekdayOutOfRange ++
  checkList q.monthDays 1 31 .monthDayOutOfRange ++
  checkList q.months 1 12 .monthOutOfRange ++
  checkList q.weeksOfMonth 1 5 .weekOfMonthOutOfRange ++
  checkTimeOfDay q.timeOfDay ++ checkDateRange q.dateRange

def sortedUnique (values : List Int) : List Int := sortOn id values.eraseDups

def compileTimePredicate (q : TimeRulePredicateInput) : CompiledTimePredicate where
  weekdays := q.weekdays.map sortedUnique
  monthDays := q.monthDays.map sortedUnique
  months := q.months.map sortedUnique
  weeksOfMonth := q.weeksOfMonth.map sortedUnique
  timeOfDay := q.timeOfDay
  dateRange := q.dateRange

def timeOfDayMatches (window : TimeWindow) (minuteOfDay : Int) : Bool :=
  match minuteOfDayOf window.start, minuteOfDayOf window.stop with
  | some start, some stop =>
    if start ≤ stop then start ≤ minuteOfDay && minuteOfDay ≤ stop
    else start ≤ minuteOfDay || minuteOfDay ≤ stop
  | _, _ => false

def admits (values : Option (List Int)) (v : Int) : Bool := values.all (v ∈ ·)

def predicateMatches (q : CompiledTimePredicate) (at' : ZonedInstant) : Bool :=
  admits q.weekdays at'.weekday && admits q.monthDays at'.day && admits q.months at'.month &&
    admits q.weeksOfMonth at'.weekOfMonth &&
    q.dateRange.all (fun w => !(at'.date < w.start || w.stop < at'.date)) &&
    q.timeOfDay.all (fun w => timeOfDayMatches w at'.minuteOfDay)

def ruleMatches (rule : CompiledTimeRule) (at' : ZonedInstant) : Bool :=
  rule.predicates.all (fun q => predicateMatches q at')

structure CompiledTimeCondition where
  (id name timezone : JsString)
  rules : List CompiledTimeRule
deriving DecidableEq

structure TimeConditionEvaluation where
  matched : Bool
  matchedRuleId : Option JsString
  at' : ZonedInstant

def evaluateTimeCondition (p : Platform) (c : CompiledTimeCondition) (instant : Int) :
    TimeConditionEvaluation :=
  let at' := zonedInstant p instant c.timezone
  match c.rules.find? (fun rule => ruleMatches rule at') with
  | some rule => ⟨true, some rule.id, at'⟩
  | none => ⟨false, none, at'⟩

end OptimiqVoice.Routing

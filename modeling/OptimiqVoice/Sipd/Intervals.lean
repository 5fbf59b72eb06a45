import Mathlib.Algebra.Order.Ring.Int
import OptimiqVoice.Sipd.AccountKeys

namespace OptimiqVoice.Sipd

/-- The number of a run of digits, of any size. -/
def signed (negative : Bool) (digits : GoString) : Option Int :=
  if digits.isEmpty then none
  else (parseDigits 10 0 digits).map fun n : Nat => if negative then -(n : Int) else n

def decimal : GoString → Option Int
  | '-' :: rest => signed true rest
  | '+' :: rest => signed false rest
  | s => signed false s

theorem atoi_eq (s : GoString) :
    atoi s = (decimal s).filter fun n => -2 ^ 63 ≤ n && n < 2 ^ 63 := by
  unfold atoi parseInt
  split
  next negative digits heq =>
  have hdecimal : decimal s = signed negative digits := by
    split at heq <;> cases heq
    · rfl
    · rfl
    · next hminus hplus => exact decimal.eq_3 s hminus hplus
  rw [hdecimal, signed]
  by_cases h : digits.isEmpty
  · simp [h]
  · cases hn : parseDigits 10 0 digits <;> simp [h, Option.filter]

/-- The seconds a text asks for. -/
def secondsOf (p : Runtime) (s : GoString) : Option Int := (decimal (p.trimSpace s)).filter (0 ≤ ·)

inductive Treatment where
  | removal
  | tooBrief
  | granted (interval : Int)
deriving DecidableEq

namespace ExpiryPolicy

variable (policy : ExpiryPolicy)

/-- What both handlers do with an interval as they have read it. -/
def treat (requested : Option Int) : Treatment :=
  match policy.grant (requested.getD 0) requested.isSome with
  | none => .tooBrief
  | some granted => if granted = 0 then .removal else .granted granted

/-- What is due to a request for so many seconds. -/
def due : Option Int → Treatment
  | none => .granted policy.default_
  | some n =>
    if n = 0 then .removal
    else if n * 1000000000 < policy.min then .tooBrief
    else .granted (Min.min (n * 1000000000) policy.max)

/-- The checks made at boot, on durations of 64 bits. -/
structure Valid : Prop where
  min_pos : 0 < policy.min
  min_le : policy.min ≤ policy.max
  default_ge : policy.min ≤ policy.default_
  default_le : policy.default_ ≤ policy.max
  bounded : policy.max < 2 ^ 63

/-- The number of seconds fits 64 bits in nanoseconds; or what comes out of the
multiplication, or is read in place of a number that is too large, is no less than
the maximum. -/
def Carries (rest : Option Int) (n : Int) : Prop :=
  n * 1000000000 < 2 ^ 63 ∨
    policy.max ≤ if n < 2 ^ 63 then duration n else rest.getD policy.default_

variable {policy} (h : policy.Valid)

include h

theorem treat_none : policy.treat none = .granted policy.default_ := by
  have hne : policy.default_ ≠ 0 := (lt_of_lt_of_le h.min_pos h.default_ge).ne'
  simp [treat, grant, hne]

theorem treat_some (d : Int) : policy.treat (some d) =
    if d = 0 then .removal else if d < policy.min then .tooBrief
    else .granted (Min.min d policy.max) := by
  have hmax : policy.max ≠ 0 := (lt_of_lt_of_le h.min_pos h.min_le).ne'
  unfold treat grant
  by_cases h0 : d = 0
  · simp [h0]
  · by_cases hlt : d < policy.min
    · simp [h0, hlt]
    · by_cases hgt : policy.max < d
      · simp [h0, hlt, hgt, hmax, min_eq_right hgt.le]
      · simp [h0, hlt, hgt, min_eq_left (not_lt.mp hgt)]

theorem treat_eq_max (requested : Option Int) : policy.treat requested = .granted policy.max ↔
    policy.max ≤ requested.getD policy.default_ := by
  have hpos := h.min_pos
  have hle := h.min_le
  cases requested with
  | none =>
    rw [treat_none h, Treatment.granted.injEq, Option.getD_none]
    exact ⟨fun heq => heq.ge, fun hge => le_antisymm h.default_le hge⟩
  | some d =>
    rw [treat_some h, Option.getD_some]
    split_ifs with h0 hlt
    · exact ⟨nofun, fun hd => by omega⟩
    · exact ⟨nofun, fun hd => by omega⟩
    · rw [Treatment.granted.injEq, min_eq_right_iff]

theorem treat_eq_due {n : Int} (hn : 0 ≤ n) (rest : Option Int) :
    policy.treat (if n < 2 ^ 63 then some (duration n) else rest) = policy.due (some n) ↔
      policy.Carries rest n := by
  have hmax := h.bounded
  by_cases hfits : n * 1000000000 < 2 ^ 63
  · have hd : duration n = n * 1000000000 := by
      rw [duration, Int.bmod_eq_of_le] <;> omega
    rw [if_pos (by omega), treat_some h, hd, due]
    simp only [Carries, hfits, true_or, iff_true]
    congr 1
    simp
  · have hdue : policy.due (some n) = .granted policy.max := by
      have hle := h.min_le
      rw [due, if_neg (by omega), if_neg (by omega), min_eq_right (by omega)]
    rw [hdue, treat_eq_max h]
    simp only [Carries, hfits, false_or]
    split_ifs <;> rfl

end ExpiryPolicy

/-- The Expires header of a SUBSCRIBE. -/
def Subscription.expiresHeader (p : Runtime) (value : GoString) : Option Int :=
  let raw := p.trimSpace value
  if raw.isEmpty then none
  else match atoi raw with
    | some seconds => if seconds < 0 then none else some (duration seconds)
    | none => none

/-- How both handlers read a text, where `rest` is what they fall back on. -/
def readOr (rest : Option Int) (p : Runtime) (s : GoString) : Option Int :=
  match atoi (p.trimSpace s) with
  | some seconds => if 0 ≤ seconds then some (duration seconds) else rest
  | none => rest

section reading

variable {p : Runtime} {s : GoString}

theorem readOr_none (h : secondsOf p s = none) (rest : Option Int) : readOr rest p s = rest := by
  rw [readOr]
  cases ha : atoi (p.trimSpace s) with
  | none => rfl
  | some m =>
    rw [atoi_eq] at ha
    obtain ⟨hd, -⟩ := Option.filter_eq_some_iff.mp ha
    have hneg : m < 0 := by simpa [secondsOf, hd, Option.filter] using h
    exact if_neg (not_le.mpr hneg)

theorem readOr_some {n : Int} (h : secondsOf p s = some n) (rest : Option Int) :
    0 ≤ n ∧ readOr rest p s = if n < 2 ^ 63 then some (duration n) else rest := by
  obtain ⟨hd, hn⟩ := Option.filter_eq_some_iff.mp h
  have hn : 0 ≤ n := by simpa using hn
  have ha : atoi (p.trimSpace s) = if n < 2 ^ 63 then some n else none := by
    rw [atoi_eq, hd, Option.filter]
    simp [show -9223372036854775808 ≤ n by omega]
  refine ⟨hn, ?_⟩
  rw [readOr, ha]
  by_cases hlt : n < 2 ^ 63
  · rw [if_pos hlt, if_pos hlt]
    exact if_pos hn
  · rw [if_neg hlt, if_neg hlt]

theorem expiresHeader_eq (p : Runtime) (s : GoString) :
    Subscription.expiresHeader p s = readOr none p s := by
  rw [Subscription.expiresHeader, readOr]
  cases hs : p.trimSpace s with
  | nil => rfl
  | cons c rest => simp only [← not_le, ite_not, List.isEmpty_cons, Bool.false_eq_true, if_false]

theorem contactExpires_eq (p : Runtime) (contact : ContactHeader) (header : Option Int) :
    contactExpires p contact header =
      ((contact.param "expires".toList).map (readOr header p)).getD header := by
  rw [contactExpires]
  cases contact.param "expires".toList <;> rfl

end reading

namespace Registrar

variable (r : Registrar) (req : Request) (contact : ContactHeader)

/-- The seconds that the parameter of a contact asks for. It wins over the header. -/
def asked : Option Int := (contact.param "expires".toList).bind (secondsOf r.auth.runtime)

/-- The number that the request asks for survives the arithmetic of the registrar. -/
def Carried : Prop :=
  match r.asked contact with
  | some n => r.expiry.Carries (expiresHeader r.auth.runtime req) n
  | none => ∀ n ∈ secondsOf r.auth.runtime req.expires, r.expiry.Carries none n

def verdict (credential : Credential) (aor aorHash : GoString) : Treatment → Verdict
  | .removal => .unbind credential aor aorHash
  | .tooBrief => .reply r.tooBrief
  | .granted interval => .bind credential aor aorHash contact interval

end Registrar

theorem treat_header_iff {policy : ExpiryPolicy} (h : policy.Valid) (p : Runtime) (value : GoString) :
    policy.treat (Subscription.expiresHeader p value) = policy.due (secondsOf p value) ↔
      ∀ n ∈ secondsOf p value, policy.Carries none n := by
  rw [expiresHeader_eq]
  cases hs : secondsOf p value with
  | none => simp [readOr_none hs, ExpiryPolicy.treat_none h, ExpiryPolicy.due]
  | some n =>
    obtain ⟨hn, hread⟩ := readOr_some hs none
    rw [hread, ExpiryPolicy.treat_eq_due h hn]
    simp

/-- Both handlers grant what is asked for, within their policies, exactly as long as
the number survives the arithmetic in 64 bits. -/
theorem intervals_due_iff (r : Registrar) (hr : r.expiry.Valid) (req : Request)
    (contact : ContactHeader) (others : List (Option ContactHeader))
    (hcontacts : req.contacts = some contact :: others) (hplain : contact.wildcard = false)
    (credential : Credential) (aor aorHash : GoString) (p : Runtime) (policy : ExpiryPolicy)
    (hpolicy : policy.Valid) (value : GoString) :
    (r.placed req credential aor aorHash = r.verdict contact credential aor aorHash
        (r.expiry.due ((r.asked contact).or (secondsOf r.auth.runtime req.expires))) ↔
      r.Carried req contact) ∧
    (policy.treat (Subscription.expiresHeader p value) = policy.due (secondsOf p value) ↔
      ∀ n ∈ secondsOf p value, policy.Carries none n) := by
  refine ⟨?_, treat_header_iff hpolicy p value⟩
  have hplaced : r.placed req credential aor aorHash = r.verdict contact credential aor aorHash
      (r.expiry.treat (contactExpires r.auth.runtime contact (expiresHeader r.auth.runtime req))) := by
    rw [Registrar.placed, hcontacts, ExpiryPolicy.treat]
    simp only [hplain, Bool.false_eq_true, if_false]
    generalize r.expiry.grant _ _ = grant
    cases grant with
    | none => rfl
    | some granted => by_cases h : granted = 0 <;> simp [h, Registrar.verdict]
  have hinj : ∀ t t' : Treatment, r.verdict contact credential aor aorHash t =
      r.verdict contact credential aor aorHash t' ↔ t = t' := by
    intro t t'
    cases t <;> cases t' <;> simp [Registrar.verdict]
  rw [hplaced, hinj, Registrar.Carried]
  cases hasked : r.asked contact with
  | none =>
    have hread : contactExpires r.auth.runtime contact (expiresHeader r.auth.runtime req) =
        expiresHeader r.auth.runtime req := by
      rw [contactExpires_eq]
      cases hparam : contact.param "expires".toList with
      | none => rfl
      | some raw => exact readOr_none (Option.bind_eq_none_iff.mp hasked raw hparam) _
    rw [hread]
    exact treat_header_iff hr r.auth.runtime req.expires
  | some n =>
    obtain ⟨raw, hparam, hs⟩ := Option.bind_eq_some_iff.mp hasked
    obtain ⟨hn, hread⟩ := readOr_some hs (expiresHeader r.auth.runtime req)
    rw [contactExpires_eq, hparam, Option.map_some, Option.getD_some, hread]
    exact ExpiryPolicy.treat_eq_due hr hn _

section sample

open Registrar

theorem sample_valid : sample.expiry.Valid := by constructor <;> decide

theorem intervals_due_iff_sample :
    (sample.placed (sampleRequest alUri) (sampleAccount ['a', 'l']) [] [] =
        sample.verdict ⟨['c'], false, []⟩ (sampleAccount ['a', 'l']) [] [] (sample.expiry.due none) ↔
      sample.Carried (sampleRequest alUri) ⟨['c'], false, []⟩) ∧
    (sample.expiry.treat (Subscription.expiresHeader sampleRuntime ['9']) = sample.expiry.due (some 9) ↔
      ∀ n ∈ some 9, sample.expiry.Carries none n) :=
  intervals_due_iff sample sample_valid (sampleRequest alUri) ⟨['c'], false, []⟩ [] rfl rfl _ [] []
    sampleRuntime sample.expiry sample_valid ['9']

theorem longInterval_removed :
    ∃ contact : ContactHeader, contact.wildcard = false ∧
      sample.placed { sampleRequest alUri with contacts := [some contact] }
          (sampleAccount ['a', 'l']) [] [] =
        sample.verdict contact (sampleAccount ['a', 'l']) [] [] .removal ∧
      sample.expiry.due (sample.asked contact) = .granted sample.expiry.max := by
  refine ⟨⟨['c'], false, [("expires".toList, "36028797018963968".toList)]⟩, rfl, ?_, ?_⟩
  · rfl
  · decide

end sample

end OptimiqVoice.Sipd

import OptimiqVoice.Lib.Dict
import OptimiqVoice.Routing.Patterns
import OptimiqVoice.Telephony.HangupCauses

namespace OptimiqVoice.Routing

open Lib Telephony

structure EmergencyNumberSeed where
  (dialed number : JsString)
deriving DecidableEq

def defaultEmergencyNumbers : List EmergencyNumberSeed :=
  [⟨lit "911", lit "911"⟩, ⟨lit "933", lit "933"⟩, ⟨lit "9911", lit "911"⟩,
   ⟨lit "9933", lit "933"⟩, ⟨lit "+1911", lit "911"⟩]

def maxEmergencyNumbers : Nat := 32

/-- An optional plus sign and between two and sixteen dial symbols. -/
def isEmergencyDialString (s : JsString) : Bool :=
  let body := if s.head? = some (unit '+') then s.tail else s
  body.all isDialUnit && 2 ≤ body.length && body.length ≤ 16

def addConfigured (byDialed : Dict JsString EmergencyNumberSeed) (raw : JsString) :
    Dict JsString EmergencyNumberSeed :=
  let dialed := trim raw
  if !isEmergencyDialString dialed || byDialed.has dialed then byDialed
  else byDialed.set dialed ⟨dialed, dialed⟩

def emergencyNumbers (configured : Option (List JsString)) : List EmergencyNumberSeed :=
  let seeds := Dict.indexBy (·.dialed) defaultEmergencyNumbers
  let all := ((configured.getD []).take maxEmergencyNumbers).foldl addConfigured seeds
  sortOn (·.dialed) all.values

section seeds

variable {configured : Option (List JsString)} {seed seed' : EmergencyNumberSeed}

/-- Each seed is stored under what it is dialled as, and that is a dial string. -/
def SeedsKeyed (byDialed : Dict JsString EmergencyNumberSeed) : Prop :=
  ∀ k seed, byDialed.get? k = some seed → seed.dialed = k ∧ isEmergencyDialString k = true

variable {byDialed : Dict JsString EmergencyNumberSeed}

variable (raw : JsString)

theorem addConfigured_keyed
    (h : SeedsKeyed byDialed) : SeedsKeyed (addConfigured byDialed raw) := by
  unfold addConfigured
  simp only
  split
  · exact h
  · next hnew =>
    intro k seed hk
    rw [Dict.get?_set] at hk
    by_cases he : trim raw = k
    · rw [if_pos he, Option.some.injEq] at hk
      subst hk
      refine ⟨he, ?_⟩
      simp only [Bool.or_eq_true, Bool.not_eq_true', not_or, Bool.not_eq_false] at hnew
      exact he ▸ hnew.1
    · rw [if_neg he] at hk
      exact h k seed hk

theorem addConfigured_kept
    {k : JsString} (h : byDialed.get? k = some seed) :
    (addConfigured byDialed raw).get? k = some seed := by
  unfold addConfigured
  simp only
  split
  · exact h
  · next hnew =>
    rw [Dict.get?_set_of_ne, h]
    intro he
    simp [Dict.has, he, h] at hnew

variable (raws : List JsString)

theorem configured_keyed
    (h : SeedsKeyed byDialed) : SeedsKeyed (raws.foldl addConfigured byDialed) := by
  induction raws generalizing byDialed with
  | nil => exact h
  | cons raw rest ih => exact ih (addConfigured_keyed raw h)

theorem configured_kept
    {k : JsString} (h : byDialed.get? k = some seed) :
    (raws.foldl addConfigured byDialed).get? k = some seed := by
  induction raws generalizing byDialed with
  | nil => exact h
  | cons raw rest ih => exact ih (addConfigured_kept raw h)

theorem seeds_keyed : SeedsKeyed (Dict.indexBy (·.dialed) defaultEmergencyNumbers) := by
  intro k seed hk
  have hd : seed.dialed = k := Dict.key_of_get?_indexBy _ hk
  have hm : seed ∈ defaultEmergencyNumbers :=
    Dict.mem_of_mem_values_indexBy _ (Dict.mem_values_of_get? hk)
  have hall : ∀ seed ∈ defaultEmergencyNumbers, isEmergencyDialString seed.dialed = true := by
    decide
  exact ⟨hd, hd ▸ hall seed hm⟩

theorem exists_get?_of_mem_emergencyNumbers (h : seed ∈ emergencyNumbers configured) :
    (((configured.getD []).take maxEmergencyNumbers).foldl addConfigured
      (Dict.indexBy (·.dialed) defaultEmergencyNumbers)).get? seed.dialed = some seed ∧
      isEmergencyDialString seed.dialed = true := by
  obtain ⟨k, hk⟩ := Dict.mem_values_iff.mp ((mem_sortOn _).mp h)
  obtain ⟨rfl, hdial⟩ := configured_keyed _ seeds_keyed k seed hk
  exact ⟨hk, hdial⟩

/-- What is dialled decides what goes on the wire. -/
theorem emergencyNumbers_inj (h : seed ∈ emergencyNumbers configured)
    (h' : seed' ∈ emergencyNumbers configured) (he : seed.dialed = seed'.dialed) :
    seed = seed' := by
  have hk := (exists_get?_of_mem_emergencyNumbers h).1
  have hk' := (exists_get?_of_mem_emergencyNumbers h').1
  rw [he, hk', Option.some.injEq] at hk
  exact hk.symm

theorem defaultEmergencyNumbers_subset (configured : Option (List JsString)) :
    defaultEmergencyNumbers ⊆ emergencyNumbers configured := by
  intro seed hm
  have hseeds := Dict.get?_indexBy_of_nodup (·.dialed)
    (by decide : (defaultEmergencyNumbers.map (·.dialed)).Nodup) hm
  exact (mem_sortOn _).mpr (Dict.mem_values_of_get? (configured_kept _ hseeds))

variable (k : JsString)

theorem mem_keys_addConfigured : k ∈ (addConfigured byDialed raw).keys ↔
    k ∈ byDialed.keys ∨ k = trim raw ∧ isEmergencyDialString k = true := by
  unfold addConfigured
  simp only
  split
  · next hold =>
    rw [Bool.or_eq_true, Dict.has_iff] at hold
    refine ⟨.inl, fun h => h.elim id fun hk => ?_⟩
    obtain ⟨rfl, hdial⟩ := hk
    simpa [hdial] using hold
  · next hnew =>
    simp only [Bool.or_eq_true, Bool.not_eq_true', not_or, Bool.not_eq_false] at hnew
    rw [Dict.mem_keys_set, or_comm]
    exact or_congr_right ⟨fun he => ⟨he, he ▸ hnew.1⟩, (·.1)⟩

theorem mem_keys_configured :
    k ∈ (raws.foldl addConfigured byDialed).keys ↔
      k ∈ byDialed.keys ∨ k ∈ raws.map trim ∧ isEmergencyDialString k = true := by
  induction raws generalizing byDialed with
  | nil => simp
  | cons raw rest ih =>
    rw [List.foldl_cons, ih, mem_keys_addConfigured, List.map_cons, List.mem_cons, or_and_right,
      or_assoc]

/-- The strings that are emergency numbers: the seeds, and the dial strings
among as many configured entries as are read. -/
theorem exists_seed_iff : (∃ seed ∈ emergencyNumbers configured, seed.dialed = k) ↔
    k ∈ defaultEmergencyNumbers.map (·.dialed) ∨
      k ∈ ((configured.getD []).take maxEmergencyNumbers).map trim ∧
        isEmergencyDialString k = true := by
  have hdefaults : k ∈ (Dict.indexBy (·.dialed) defaultEmergencyNumbers).keys ↔
      k ∈ defaultEmergencyNumbers.map (·.dialed) := by
    rw [show (Dict.indexBy (·.dialed) defaultEmergencyNumbers).keys =
      defaultEmergencyNumbers.map (·.dialed) by decide]
  rw [← hdefaults, ← mem_keys_configured, Dict.mem_keys_iff]
  constructor
  · rintro ⟨seed, hseed, rfl⟩
    exact ⟨seed, (exists_get?_of_mem_emergencyNumbers hseed).1⟩
  · rintro ⟨seed, hseed⟩
    exact ⟨seed, (mem_sortOn _).mpr (Dict.mem_values_of_get? hseed),
      (configured_keyed _ seeds_keyed k seed hseed).1⟩

end seeds

def invalidEmergencyNumbers (configured : Option (List JsString)) : List JsString :=
  (configured.getD []).filter (fun raw => !isEmergencyDialString (trim raw))

def emergencyContinueOnCauses : List HangupCause :=
  [.callRejected, .channelUnacceptable, .destinationOutOfOrder, .exchangeRoutingError,
   .facilityRejected, .gatewayDown, .incompatibleDestination, .invalidGateway,
   .invalidNumberFormat, .mediaTimeout, .networkOutOfOrder, .normalCircuitCongestion,
   .normalTemporaryFailure, .normalUnspecified, .noAnswer, .noRouteDestination,
   .noRouteTransitNet, .noUserResponse, .outgoingCallBarred, .progressTimeout, .protocolError,
   .recoveryOnTimerExpire, .requestedChanUnavail, .serviceUnavailable, .srtpReadError,
   .switchCongestion, .unallocatedNumber, .userBusy, .userNotRegistered]

def emergencyNodeId : JsString := lit "trunk-dial:emergency"

def emergencyRouteId : JsString := lit "emergency"

end OptimiqVoice.Routing

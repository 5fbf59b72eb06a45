import OptimiqVoice.Sipd.Registrar

namespace OptimiqVoice.Sipd

section splitting

variable {α : Type}

theorem split_unique {c : α} {x x' y y' : List α} (hx : c ∉ x) (hx' : c ∉ x')
    (h : x ++ c :: y = x' ++ c :: y') : x = x' ∧ y = y' := by
  induction x generalizing x' with
  | nil =>
    cases x' with
    | nil => simpa using h
    | cons a x' =>
      obtain ⟨rfl, -⟩ := List.cons.inj h
      simp at hx'
  | cons a x ih =>
    cases x' with
    | nil =>
      obtain ⟨rfl, -⟩ := List.cons.inj h
      simp at hx
    | cons a' x' =>
      obtain ⟨rfl, htail⟩ := List.cons.inj h
      obtain ⟨rfl, rfl⟩ := ih (fun hc => hx (.tail _ hc)) (fun hc => hx' (.tail _ hc)) htail
      exact ⟨rfl, rfl⟩

variable {p : α → Bool} {c : α}

theorem dropWhile_append_cons (h : p c = false) (x y : List α) :
    (x ++ c :: y).dropWhile p = x.dropWhile p ++ c :: y := by
  rw [List.dropWhile_append]
  by_cases he : (x.dropWhile p).isEmpty
  · simp [h, List.isEmpty_iff.mp he]
  · simp [he]

theorem rdropWhile_append_cons (h : p c = false) (x y : List α) :
    (x ++ c :: y).rdropWhile p = x ++ c :: y.rdropWhile p := by
  simp [List.rdropWhile, dropWhile_append_cons h]

end splitting

theorem not_mem_of_isSubjectToken {s : GoString} (h : isSubjectToken s) : '.' ∉ s := by
  intro hm
  have hall := (Bool.and_eq_true _ _ ▸ h).2
  exact absurd (List.all_eq_true.mp hall _ hm) (by decide)

theorem registrationKVKey_inj {org org' hash hash' key : GoString}
    (h : registrationKVKey org hash = .ok key) (h' : registrationKVKey org' hash' = .ok key) :
    org = org' ∧ hash = hash' := by
  obtain ⟨ho, -, rfl⟩ := registrationKVKey_ok.mp h
  obtain ⟨ho', -, he⟩ := registrationKVKey_ok.mp h'
  exact split_unique (not_mem_of_isSubjectToken ho) (not_mem_of_isSubjectToken ho') he

namespace SipUri

variable (p : Runtime)

def schemeOr (uri : SipUri) : GoString := if uri.scheme.isEmpty then "sip".toList else uri.scheme

theorem schemeOr_ends (uri : SipUri) : ':' ∉ uri.schemeOr := by
  by_cases h : uri.scheme.isEmpty
  · rw [schemeOr, if_pos h]
    decide
  · rw [schemeOr, if_neg h]
    exact uri.scheme_ends

theorem user_eq_of_aor {x y : SipUri} (h : x.aor p = y.aor p) : x.user = y.user := by
  have h' : x.schemeOr ++ ':' :: (x.user ++ '@' :: p.lower x.host) =
      y.schemeOr ++ ':' :: (y.user ++ '@' :: p.lower y.host) := by
    simpa [aor, schemeOr] using h
  obtain ⟨-, h⟩ := split_unique x.schemeOr_ends y.schemeOr_ends h'
  exact (split_unique x.user_ends y.user_ends h).1

/-- Two addresses are one up to the case of their letters and outer blanks. -/
def Same (x y : SipUri) : Prop :=
  p.lower (p.trimLeft x.schemeOr) = p.lower (p.trimLeft y.schemeOr) ∧
    p.lower x.user = p.lower y.user ∧
    p.lower (p.trimRight (p.lower x.host)) = p.lower (p.trimRight (p.lower y.host))

theorem normalized_aor (x : SipUri) : normalized p (x.aor p) =
    p.lower (p.trimLeft x.schemeOr) ++ ':' :: (p.lower x.user ++
      '@' :: p.lower (p.trimRight (p.lower x.host))) := by
  have hl : p.trimLeft (x.aor p) =
      p.trimLeft x.schemeOr ++ ':' :: (x.user ++ '@' :: p.lower x.host) := by
    have h := dropWhile_append_cons p.space_colon x.schemeOr (x.user ++ '@' :: p.lower x.host)
    simpa [aor, schemeOr, Runtime.trimLeft] using h
  have hr : p.trimSpace (x.aor p) =
      p.trimLeft x.schemeOr ++ ':' :: (x.user ++ '@' :: p.trimRight (p.lower x.host)) := by
    have h := rdropWhile_append_cons p.space_at (p.trimLeft x.schemeOr ++ ':' :: x.user) (p.lower x.host)
    simpa [Runtime.trimSpace, hl, Runtime.trimRight] using h
  simp [normalized, hr, Runtime.lower, (p.lower_colon ':').mpr rfl, (p.lower_at '@').mpr rfl]

theorem not_mem_lower {c : Char} (hc : ∀ d, p.toLower d = c ↔ d = c) {s : GoString} (h : c ∉ s) :
    c ∉ p.lower s := by
  intro hm
  obtain ⟨d, hd, hdc⟩ := List.mem_map.mp hm
  exact h ((hc d).mp hdc ▸ hd)

/-- The normal form loses the case of the letters and the outer blanks and nothing else. -/
theorem normalized_aor_eq_iff (x y : SipUri) :
    normalized p (x.aor p) = normalized p (y.aor p) ↔ x.Same p y := by
  rw [normalized_aor, normalized_aor]
  constructor
  · intro h
    have hs : ∀ z : SipUri, ':' ∉ p.lower (p.trimLeft z.schemeOr) := fun z =>
      not_mem_lower p p.lower_colon fun hm => z.schemeOr_ends ((List.dropWhile_sublist _).subset hm)
    have hu : ∀ z : SipUri, '@' ∉ p.lower z.user := fun z => not_mem_lower p p.lower_at z.user_ends
    obtain ⟨hscheme, h⟩ := split_unique (hs x) (hs y) h
    obtain ⟨huser, hhost⟩ := split_unique (hu x) (hu y) h
    exact ⟨hscheme, huser, hhost⟩
  · rintro ⟨hscheme, huser, hhost⟩
    rw [hscheme, huser, hhost]

end SipUri

end OptimiqVoice.Sipd

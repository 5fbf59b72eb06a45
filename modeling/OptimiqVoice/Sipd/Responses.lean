import OptimiqVoice.Lib.Topic
import OptimiqVoice.Sipd.Digest

namespace OptimiqVoice.Sipd

open Lib

/-- `strconv.FormatInt` in hex. -/
def formatHex (i : Int) : GoString :=
  if i < 0 then '-' :: Nat.toDigits 16 i.natAbs else Nat.toDigits 16 i.natAbs

def hexEncode (bytes : List UInt8) : GoString :=
  bytes.flatMap fun b => [Nat.digitChar (b.toNat / 16), Nat.digitChar (b.toNat % 16)]

def IsHex (s : GoString) : Prop := (parseDigits 16 0 s).isSome

instance (s : GoString) : Decidable (IsHex s) := inferInstanceAs (Decidable (_ = true))

namespace Authenticator

variable (a : Authenticator)

def nonceBody (expiry : Int) (salt : List UInt8) : GoString := formatHex expiry ++ '.' :: hexEncode salt

def mintNonce (expiry : Int) (salt : List UInt8) : GoString :=
  nonceBody expiry salt ++ '.' :: a.macFor (nonceBody expiry salt)

def digestRest (method : GoString) (auth : Authorization) : GoString :=
  let ha2 := a.runtime.md5hex (method ++ ':' :: auth.uri)
  if auth.qop = "auth".toList then
    countText auth.nc ++ ':' :: (auth.cnonce ++ (":auth:".toList ++ ha2))
  else ha2

/-- What `digestResponse` takes the digest of. -/
def digestText (method ha1 : GoString) (auth : Authorization) : GoString :=
  ha1 ++ ':' :: (auth.nonce ++ ':' :: a.digestRest method auth)

/-- A nonce whose MAC is right has a body that was given one. -/
def Unforged (issued : Set (Int × List UInt8)) (nonce : GoString) : Prop :=
  ∀ body, nonce = body ++ '.' :: a.macFor body → ∃ x ∈ issued, body = nonceBody x.1 x.2

/-- Two texts, of which one has the other's digest, are one. -/
def NoCollision (s s' : GoString) : Prop := a.runtime.md5hex s = a.runtime.md5hex s' → s = s'

end Authenticator

section texts

variable {s : GoString} {c sep : Char}

theorem cut_inj {x y x' y' : GoString} (hx : sep ∉ x) (hx' : sep ∉ x')
    (h : x ++ sep :: y = x' ++ sep :: y') : x = x' ∧ y = y' := by
  have hsplit := congrArg (List.splitOn sep) h
  rw [List.splitOn_append_cons_self_of_not_mem hx, List.splitOn_append_cons_self_of_not_mem hx'] at hsplit
  obtain ⟨hfirst, hrest⟩ := List.cons.inj hsplit
  exact ⟨hfirst, splitOn_inj.mp hrest⟩

theorem parseDigits_append (n : Nat) (s t : GoString) :
    parseDigits 16 n (s ++ t) = (parseDigits 16 n s).bind (parseDigits 16 · t) := by
  induction s generalizing n with
  | nil => rfl
  | cons c rest ih =>
    simp only [List.cons_append, parseDigits]
    cases digitValue c with
    | none => rfl
    | some d =>
      simp only [Option.bind_eq_bind, Option.bind_some]
      split_ifs
      · exact ih _
      · rfl

theorem IsHex.notMem (h : IsHex s) (hc : digitValue c = none) : c ∉ s := by
  intro hmem
  obtain ⟨x, y, rfl⟩ := List.append_of_mem hmem
  rw [IsHex, parseDigits_append] at h
  cases hx : parseDigits 16 0 x <;> simp [hx, parseDigits, hc] at h

theorem digitValue_digitChar {d : Nat} (h : d < 16) : digitValue (Nat.digitChar d) = some d := by
  have hall : ∀ d : Fin 16, digitValue (Nat.digitChar d) = some d.val := by decide
  exact hall ⟨d, h⟩

theorem parseDigits_toDigits (n : Nat) : parseDigits 16 0 (Nat.toDigits 16 n) = some n := by
  have hlast : ∀ d m, d < 16 → parseDigits 16 m [Nat.digitChar d] = some (m * 16 + d) := by
    intro d m hd
    simp [parseDigits, digitValue_digitChar hd, hd]
  induction n using Nat.strongRecOn with
  | ind n ih =>
    by_cases hn : n < 16
    · rw [Nat.toDigits_of_lt_base hn, hlast n 0 hn, Nat.zero_mul, Nat.zero_add]
    · rw [Nat.toDigits_of_base_le (by decide) (by omega), parseDigits_append, ih (n / 16) (by omega),
        Option.bind_some, hlast _ _ (Nat.mod_lt n (by decide)), Nat.div_add_mod']

theorem parseDigits_countText (nc : Nat) : parseDigits 16 0 (Authenticator.countText nc) = some nc := by
  have hzeros : ∀ k, parseDigits 16 0 (List.replicate k '0') = some 0 := by
    intro k
    induction k with
    | zero => rfl
    | succ k ih => exact ih
  rw [Authenticator.countText, parseDigits_append, hzeros, Option.bind_some, parseDigits_toDigits]

/-- The text of a number of 64 bits is read as the number. -/
theorem parseInt_formatHex {e : Int} (hlow : -2 ^ 63 ≤ e) (hhigh : e < 2 ^ 63) :
    parseInt 16 (formatHex e) = some e := by
  have hparse := parseDigits_toDigits e.natAbs
  have hhex : IsHex (Nat.toDigits 16 e.natAbs) := by simp [IsHex, hparse]
  unfold parseInt
  split
  next negative digits heq =>
  have hdigits : digits = Nat.toDigits 16 e.natAbs ∧ (if negative then -(e.natAbs : Int) else e.natAbs) = e := by
    rw [formatHex] at heq
    by_cases hneg : e < 0
    · rw [if_pos hneg] at heq
      cases heq
      exact ⟨rfl, by rw [if_pos rfl]; omega⟩
    · rw [if_neg hneg] at heq
      split at heq
      · next hs => exact absurd (by rw [hs]; exact .head _) (hhex.notMem (c := '-') (by decide))
      · next hs => exact absurd (by rw [hs]; exact .head _) (hhex.notMem (c := '+') (by decide))
      · cases heq
        exact ⟨rfl, by rw [if_neg (by decide)]; omega⟩
  obtain ⟨rfl, hvalue⟩ := hdigits
  rw [if_neg (by simp [Nat.toDigits_ne_nil]), hparse, Option.bind_eq_bind, Option.bind_some]
  simp only [hvalue]
  rw [if_pos]
  rw [Bool.and_eq_true, decide_eq_true_eq, decide_eq_true_eq]
  exact ⟨hlow, hhigh⟩

theorem notMem_formatHex (e : Int) (hc : digitValue c = none) (hne : c ≠ '-') : c ∉ formatHex e := by
  have hdigits : c ∉ Nat.toDigits 16 e.natAbs := IsHex.notMem (by simp [IsHex, parseDigits_toDigits]) hc
  rw [formatHex]
  split_ifs <;> simp [hdigits, hne]

theorem notMem_hexEncode (bytes : List UInt8) (hc : digitValue c = none) : c ∉ hexEncode bytes := by
  intro h
  obtain ⟨b, -, hb⟩ := List.mem_flatMap.mp h
  have hlow : b.toNat / 16 < 16 := by have := b.toNat_lt; omega
  have hhigh : b.toNat % 16 < 16 := Nat.mod_lt _ (by decide)
  simp only [List.mem_cons, List.not_mem_nil, or_false] at hb
  obtain rfl | rfl := hb
  · rw [digitValue_digitChar hlow] at hc
    cases hc
  · rw [digitValue_digitChar hhigh] at hc
    cases hc

end texts

/-- The digests are hex, and those of MD5 have one length. -/
structure Runtime.Digests (p : Runtime) : Prop where
  md5 : ∀ s, IsHex (p.md5hex s) ∧ (p.md5hex s).length = 32
  hmac : ∀ key s, IsHex (p.hmacHex key s)

namespace Authenticator

variable {a : Authenticator} {issued : Set (Int × List UInt8)} {now : Int}

theorem splitOn_mintNonce (hp : a.runtime.Digests) (e : Int) (salt : List UInt8) :
    (a.mintNonce e salt).splitOn '.' =
      [formatHex e, hexEncode salt, a.macFor (nonceBody e salt)] := by
  have hmac : '.' ∉ a.macFor (nonceBody e salt) := (hp.hmac _ _).notMem (by decide)
  rw [mintNonce, List.splitOn_append_cons_self, List.splitOn_eq_singleton hmac, nonceBody,
    List.splitOn_append_cons_self,
    List.splitOn_eq_singleton (notMem_formatHex e (by decide) (by decide)),
    List.splitOn_eq_singleton (notMem_hexEncode salt (by decide))]
  rfl

theorem colon_notMem_mintNonce (hp : a.runtime.Digests) (e : Int) (salt : List UInt8) :
    ':' ∉ a.mintNonce e salt := by
  have hmac : ':' ∉ a.macFor (formatHex e ++ '.' :: hexEncode salt) := (hp.hmac _ _).notMem (by decide)
  simp [mintNonce, nonceBody, hmac, notMem_formatHex e (c := ':') (by decide) (by decide),
    notMem_hexEncode salt (c := ':') (by decide)]

/-- An accepted nonce was minted, and its time is not over. -/
theorem minted_of_checkNonce (hp : a.runtime.Digests) {nonce : GoString}
    (hissued : ∀ x ∈ issued, -2 ^ 63 ≤ x.1 ∧ x.1 < 2 ^ 63) (hforge : a.Unforged issued nonce)
    (h : a.checkNonce now nonce = .ok ()) : ∃ x ∈ issued, nonce = a.mintNonce x.1 x.2 ∧ now < x.1 := by
  unfold checkNonce at h
  split at h
  · next expires salt mac hsplit =>
    split_ifs at h with hmac
    have hmac : a.macFor (expires ++ '.' :: salt) = mac := by simpa using hmac
    have hnonce : nonce = (expires ++ '.' :: salt) ++ '.' :: a.macFor (expires ++ '.' :: salt) := by
      have hjoin : ['.'].intercalate (nonce.splitOn '.') = nonce := List.intercalate_splitOn '.'
      rw [hmac, ← hjoin, hsplit]
      simp [List.intercalate]
    obtain ⟨x, hx, hbody⟩ := hforge _ hnonce
    rw [hbody] at hnonce
    have hparts := (splitOn_mintNonce hp x.1 x.2).symm.trans (hnonce ▸ hsplit)
    obtain ⟨rfl, -⟩ := List.cons.inj hparts
    obtain ⟨hlow, hhigh⟩ := hissued x hx
    rw [parseInt_formatHex hlow hhigh] at h
    exact ⟨x, hx, hnonce, by simpa using h⟩
  · cases h

theorem verify_ok {method ha1 : GoString} {auth : Authorization} (h : a.verify now method auth ha1 = .ok ()) :
    a.checkNonce now auth.nonce = .ok () ∧ a.runtime.md5hex (a.digestText method ha1 auth) = auth.response := by
  have htext : a.digestResponse ha1 method auth.uri auth.nonce auth.qop auth.cnonce auth.nc =
      a.runtime.md5hex (a.digestText method ha1 auth) := by
    rw [digestResponse, digestText, digestRest]
    split_ifs with hq <;> simp [List.intercalate, hq]
  rw [verify, htext] at h
  split at h
  · cases h
  · split at h
    · cases h
    · obtain ⟨⟨⟩, hnonce, hrest⟩ := Except.bind_eq_ok.mp h
      split_ifs at hrest with hresponse
      exact ⟨hnonce, hresponse⟩

end Authenticator

/-- A response is good for one use: for the account, the method, the URI and the nonce,
and for the count and the nonce of the client where they are part of it. -/
theorem response_binds (a : Authenticator) (hp : a.runtime.Digests) (issued : Set (Int × List UInt8))
    (hissued : ∀ x ∈ issued, -2 ^ 63 ≤ x.1 ∧ x.1 < 2 ^ 63) (now now' : Int)
    (method method' ha1 ha1' : GoString) (auth auth' : Authorization)
    (hmethod : ':' ∉ method) (hmethod' : ':' ∉ method') (hha1 : IsHex ha1) (hha1' : IsHex ha1')
    (hforge : a.Unforged issued auth.nonce) (hforge' : a.Unforged issued auth'.nonce)
    (htext : a.NoCollision (a.digestText method ha1 auth) (a.digestText method' ha1' auth'))
    (hha2 : a.NoCollision (method ++ ':' :: auth.uri) (method' ++ ':' :: auth'.uri))
    (h : a.verify now method auth ha1 = .ok ()) (h' : a.verify now' method' auth' ha1' = .ok ())
    (hresponse : auth.response = auth'.response) :
    (∃ x ∈ issued, auth.nonce = a.mintNonce x.1 x.2 ∧ now < x.1) ∧
    ha1 = ha1' ∧ method = method' ∧ auth.uri = auth'.uri ∧ auth.nonce = auth'.nonce ∧
    (auth.qop = "auth".toList ↔ auth'.qop = "auth".toList) ∧
    (auth.qop = "auth".toList → auth.nc = auth'.nc ∧ auth.cnonce = auth'.cnonce) := by
  obtain ⟨hnonce, hmd5⟩ := Authenticator.verify_ok h
  obtain ⟨hnonce', hmd5'⟩ := Authenticator.verify_ok h'
  obtain ⟨x, hx, hminted, hnow⟩ := Authenticator.minted_of_checkNonce hp hissued hforge hnonce
  obtain ⟨x', hx', hminted', hnow'⟩ := Authenticator.minted_of_checkNonce hp hissued hforge' hnonce'
  have htexts := htext (hmd5.trans (hresponse.trans hmd5'.symm))
  obtain ⟨heq, hafter⟩ := cut_inj (hha1.notMem (by decide)) (hha1'.notMem (by decide)) htexts
  have hcolon : ':' ∉ auth.nonce := hminted ▸ Authenticator.colon_notMem_mintNonce hp x.1 x.2
  have hcolon' : ':' ∉ auth'.nonce := hminted' ▸ Authenticator.colon_notMem_mintNonce hp x'.1 x'.2
  obtain ⟨hnonces, hrest⟩ := cut_inj hcolon hcolon' hafter
  refine ⟨⟨x, hx, hminted, hnow⟩, heq, ?_⟩
  have hplain : ∀ s, ':' ∉ a.runtime.md5hex s := fun s => (hp.md5 s).1.notMem (by decide)
  have huse : a.runtime.md5hex (method ++ ':' :: auth.uri) = a.runtime.md5hex (method' ++ ':' :: auth'.uri) →
      method = method' ∧ auth.uri = auth'.uri := fun h => cut_inj hmethod hmethod' (hha2 h)
  unfold Authenticator.digestRest at hrest
  by_cases hq : auth.qop = "auth".toList <;> by_cases hq' : auth'.qop = "auth".toList
  · rw [if_pos hq, if_pos hq'] at hrest
    have hhex : ∀ n, ':' ∉ Authenticator.countText n := by
      intro n
      exact IsHex.notMem (by simp [IsHex, parseDigits_countText]) (by decide)
    obtain ⟨hcount, htail⟩ := cut_inj (hhex _) (hhex _) hrest
    obtain ⟨hcnonce, htail⟩ := List.append_inj' htail (by simp [(hp.md5 _).2])
    obtain ⟨hm, hu⟩ := huse (List.append_cancel_left htail)
    have hnc := congrArg (parseDigits 16 0) hcount
    rw [parseDigits_countText, parseDigits_countText] at hnc
    exact ⟨hm, hu, hnonces, iff_of_true hq hq', fun _ => ⟨Option.some.inj hnc, hcnonce⟩⟩
  · rw [if_pos hq, if_neg hq'] at hrest
    exact absurd (hrest ▸ by simp) (hplain (method' ++ ':' :: auth'.uri))
  · rw [if_neg hq, if_pos hq'] at hrest
    exact absurd (hrest ▸ by simp) (hplain (method ++ ':' :: auth.uri))
  · rw [if_neg hq, if_neg hq'] at hrest
    obtain ⟨hm, hu⟩ := huse hrest
    exact ⟨hm, hu, hnonces, iff_of_false hq hq', fun h => absurd h hq⟩

section sample

def zeros : Authenticator where
  runtime := { sampleRuntime with md5hex := fun _ => List.replicate 32 '0', hmacHex := fun _ _ => ['0'] }
  realm := ['r']
  secret := []
  parseCredentials _ := none

def zerosAuth : Authorization :=
  ⟨['u'], ['r'], zeros.mintNonce 100 [], "sip:r".toList, List.replicate 32 '0', [], ":c:".toList,
    "auth".toList, 1⟩

theorem response_binds_zeros : ∃ x ∈ ({(100, [])} : Set (Int × List UInt8)),
    zerosAuth.nonce = zeros.mintNonce x.1 x.2 ∧ 99 < x.1 := by
  have hforge : zeros.Unforged {(100, [])} zerosAuth.nonce :=
    fun _ h => ⟨_, rfl, (List.append_cancel_right h).symm⟩
  have hdigests : zeros.runtime.Digests :=
    ⟨fun _ => ⟨(by decide : IsHex (List.replicate 32 '0')), rfl⟩, fun _ _ => (by decide : IsHex ['0'])⟩
  have hissued : ∀ x ∈ ({(100, [])} : Set (Int × List UInt8)), -2 ^ 63 ≤ x.1 ∧ x.1 < 2 ^ 63 := by
    rintro _ rfl
    exact ⟨by omega, by omega⟩
  exact (response_binds zeros hdigests {(100, [])} hissued 99 99
    "REGISTER".toList "REGISTER".toList (List.replicate 32 'a') (List.replicate 32 'a') zerosAuth zerosAuth
    (by decide) (by decide) (by decide) (by decide) hforge hforge (fun _ => rfl) (fun _ => rfl)
    (by rfl) (by rfl) rfl).1

end sample

end OptimiqVoice.Sipd

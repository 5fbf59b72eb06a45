import Mathlib.Algebra.Group.Nat.Defs
import OptimiqVoice.Routing.Json

namespace OptimiqVoice.Routing.Sha256

open Lib

def roundConstants : List UInt32 :=
  [0x428a2f98, 0x71374491, 0xb5c0fbcf, 0xe9b5dba5, 0x3956c25b, 0x59f111f1, 0x923f82a4, 0xab1c5ed5,
   0xd807aa98, 0x12835b01, 0x243185be, 0x550c7dc3, 0x72be5d74, 0x80deb1fe, 0x9bdc06a7, 0xc19bf174,
   0xe49b69c1, 0xefbe4786, 0x0fc19dc6, 0x240ca1cc, 0x2de92c6f, 0x4a7484aa, 0x5cb0a9dc, 0x76f988da,
   0x983e5152, 0xa831c66d, 0xb00327c8, 0xbf597fc7, 0xc6e00bf3, 0xd5a79147, 0x06ca6351, 0x14292967,
   0x27b70a85, 0x2e1b2138, 0x4d2c6dfc, 0x53380d13, 0x650a7354, 0x766a0abb, 0x81c2c92e, 0x92722c85,
   0xa2bfe8a1, 0xa81a664b, 0xc24b8b70, 0xc76c51a3, 0xd192e819, 0xd6990624, 0xf40e3585, 0x106aa070,
   0x19a4c116, 0x1e376c08, 0x2748774c, 0x34b0bcb5, 0x391c0cb3, 0x4ed8aa4a, 0x5b9cca4f, 0x682e6ff3,
   0x748f82ee, 0x78a5636f, 0x84c87814, 0x8cc70208, 0x90befffa, 0xa4506ceb, 0xbef9a3f7, 0xc67178f2]

structure State where
  (a b c d e f g h : UInt32)

def initialState : State :=
  ⟨0x6a09e667, 0xbb67ae85, 0x3c6ef372, 0xa54ff53a, 0x510e527f, 0x9b05688c, 0x1f83d9ab, 0x5be0cd19⟩

def rotr (value bits : UInt32) : UInt32 := (value >>> bits) ||| (value <<< (32 - bits))

/-- One more word of the message schedule, which is kept newest first. -/
def extend (w : List UInt32) : List UInt32 :=
  let previous15 := w.getD 14 0
  let previous2 := w.getD 1 0
  let s0 := rotr previous15 7 ^^^ rotr previous15 18 ^^^ (previous15 >>> 3)
  let s1 := rotr previous2 17 ^^^ rotr previous2 19 ^^^ (previous2 >>> 10)
  (w.getD 15 0 + s0 + w.getD 6 0 + s1) :: w

def schedule (block : List UInt32) : List UInt32 := (extend^[48] block.reverse).reverse

def round (s : State) (k w : UInt32) : State :=
  let sigma1 := rotr s.e 6 ^^^ rotr s.e 11 ^^^ rotr s.e 25
  let choose := (s.e &&& s.f) ^^^ (~~~s.e &&& s.g)
  let temp1 := s.h + sigma1 + choose + k + w
  let sigma0 := rotr s.a 2 ^^^ rotr s.a 13 ^^^ rotr s.a 22
  let majority := (s.a &&& s.b) ^^^ (s.a &&& s.c) ^^^ (s.b &&& s.c)
  ⟨temp1 + (sigma0 + majority), s.a, s.b, s.c, s.d + temp1, s.e, s.f, s.g⟩

def compress (s : State) (block : List UInt32) : State :=
  let t := (roundConstants.zip (schedule block)).foldl (fun t kw => round t kw.1 kw.2) s
  ⟨s.a + t.a, s.b + t.b, s.c + t.c, s.d + t.d, s.e + t.e, s.f + t.f, s.g + t.g, s.h + t.h⟩

def padded (bytes : List Nat) : List Nat :=
  let bitLength := bytes.length * 8
  let blockCount := (bytes.length + 8) / 64 + 1
  let zeros := blockCount * 64 - bytes.length - 9
  bytes ++ 0x80 :: List.replicate zeros 0 ++
    [56, 48, 40, 32, 24, 16, 8, 0].map (fun shift => bitLength / 2 ^ shift % 256)

def words : List Nat → List UInt32
  | a :: b :: c :: d :: rest => UInt32.ofNat (a * 2 ^ 24 + b * 2 ^ 16 + c * 2 ^ 8 + d) :: words rest
  | _ => []

def blocks : Nat → List UInt32 → List (List UInt32)
  | 0, _ => []
  | n + 1, ws => ws.take 16 :: blocks n (ws.drop 16)

def wordHex (w : UInt32) : JsString :=
  [28, 24, 20, 16, 12, 8, 4, 0].map (fun shift => hexDigit (w.toNat / 2 ^ shift % 16))

def toHex (s : State) : JsString := [s.a, s.b, s.c, s.d, s.e, s.f, s.g, s.h].flatMap wordHex

def sha256Bytes (bytes : List Nat) : JsString :=
  let ws := words (padded bytes)
  toHex ((blocks (ws.length / 16) ws).foldl compress initialState)

def utf8Code (code : Nat) : List Nat :=
  if code < 0x80 then [code]
  else if code < 0x800 then [0xc0 + code / 64, 0x80 + code % 64]
  else if code < 0x10000 then [0xe0 + code / 4096, 0x80 + code / 64 % 64, 0x80 + code % 64]
  else [0xf0 + code / 262144, 0x80 + code / 4096 % 64, 0x80 + code / 64 % 64, 0x80 + code % 64]

/-- A surrogate pair is one code point, a lone surrogate encodes itself. -/
def utf8Bytes : JsString → List Nat
  | [] => []
  | [u] => utf8Code u.val
  | u :: v :: rest =>
    if isHighSurrogate u && isLowSurrogate v then
      utf8Code (0x10000 + (u.val - 0xd800) * 1024 + (v.val - 0xdc00)) ++ utf8Bytes rest
    else utf8Code u.val ++ utf8Bytes (v :: rest)

def sha256 (text : JsString) : JsString := sha256Bytes (utf8Bytes text)

def utf16 (code : Nat) : JsString :=
  if code < 0x10000 then [Fin.ofNat _ code]
  else [Fin.ofNat _ (0xd800 + (code - 0x10000) / 1024),
    Fin.ofNat _ (0xdc00 + (code - 0x10000) % 1024)]

section units

variable {u v : CodeUnit}

theorem isHighSurrogate_iff : isHighSurrogate u ↔ 0xd800 ≤ u.val ∧ u.val ≤ 0xdbff := by
  simp [isHighSurrogate, Fin.le_def]

theorem isLowSurrogate_iff : isLowSurrogate u ↔ 0xdc00 ≤ u.val ∧ u.val ≤ 0xdfff := by
  simp [isLowSurrogate, Fin.le_def]

theorem utf16_unit (u : CodeUnit) : utf16 u.val = [u] := by
  rw [utf16, if_pos u.isLt]
  simp

theorem utf16_pair (hu : isHighSurrogate u) (hv : isLowSurrogate v) :
    utf16 (0x10000 + (u.val - 0xd800) * 1024 + (v.val - 0xdc00)) = [u, v] := by
  rw [isHighSurrogate_iff] at hu
  rw [isLowSurrogate_iff] at hv
  rw [utf16, if_neg (by omega)]
  simp only [List.cons.injEq, Fin.ext_iff, Fin.val_ofNat, and_true]
  omega

theorem utf8Bytes_unit (h : ¬isHighSurrogate u) (s : JsString) :
    utf8Bytes (u :: s) = utf8Code u.val ++ utf8Bytes s := by
  cases s with
  | nil => exact (List.append_nil _).symm
  | cons v rest => rw [utf8Bytes, if_neg (by simp [h])]

theorem utf8Bytes_pair (hu : isHighSurrogate u) (hv : isLowSurrogate v) (s : JsString) :
    utf8Bytes (u :: v :: s) =
      utf8Code (0x10000 + (u.val - 0xd800) * 1024 + (v.val - 0xdc00)) ++ utf8Bytes s := by
  rw [utf8Bytes, if_pos (by simp [hu, hv])]

theorem utf8Bytes_turn (u : CodeUnit) (s : JsString) : ∃ code rest, code < 0x200000 ∧
    u :: s = utf16 code ++ rest ∧ rest.length ≤ s.length ∧
      utf8Bytes (u :: s) = utf8Code code ++ utf8Bytes rest := by
  cases s with
  | nil => exact ⟨u.val, [], by omega, by simp [utf16_unit], le_rfl, (List.append_nil _).symm⟩
  | cons v rest =>
    rw [utf8Bytes]
    split_ifs with h
    · rw [Bool.and_eq_true] at h
      have hu := isHighSurrogate_iff.mp h.1
      have hv := isLowSurrogate_iff.mp h.2
      exact ⟨_, rest, by omega, by simp [utf16_pair h.1 h.2], Nat.le_succ _, rfl⟩
    · exact ⟨u.val, v :: rest, by omega, by simp [utf16_unit], le_rfl, rfl⟩

end units

theorem utf8Code_append_inj {code code' : Nat} {bytes bytes' : List Nat} (h : code < 0x200000)
    (h' : code' < 0x200000) (heq : utf8Code code ++ bytes = utf8Code code' ++ bytes') :
    code = code' ∧ bytes = bytes' := by
  have hcode : code = code' := by
    unfold utf8Code at heq
    split_ifs at heq <;>
      simp only [List.cons_append, List.nil_append, List.cons.injEq] at heq <;> omega
  subst hcode
  exact ⟨rfl, List.append_cancel_left heq⟩

theorem utf8Bytes_eq_nil {s : JsString} (h : utf8Bytes s = []) : s = [] := by
  cases s with
  | nil => rfl
  | cons u s =>
    obtain ⟨code, rest, -, -, -, hbytes⟩ := utf8Bytes_turn u s
    rw [h, utf8Code] at hbytes
    split_ifs at hbytes <;> cases hbytes

theorem utf8Bytes_injective : Function.Injective utf8Bytes := by
  intro s t h
  induction hn : s.length using Nat.strong_induction_on generalizing s t with
  | _ n ih =>
    cases s with
    | nil => exact (utf8Bytes_eq_nil h.symm).symm
    | cons u s =>
      cases t with
      | nil => exact utf8Bytes_eq_nil h
      | cons v t =>
        obtain ⟨code, rest, hc, hs, hlt, hbytes⟩ := utf8Bytes_turn u s
        obtain ⟨code', rest', hc', ht, -, hbytes'⟩ := utf8Bytes_turn v t
        rw [hbytes, hbytes'] at h
        obtain ⟨rfl, hrest⟩ := utf8Code_append_inj hc hc' h
        rw [hs, ht, ih rest.length (hn ▸ Nat.lt_succ_of_le hlt) hrest rfl]

theorem utf8Bytes_append {u : CodeUnit} (hu : isHighSurrogate u) (before after : JsString) :
    utf8Bytes (before ++ u :: after) = utf8Bytes before ++ utf8Bytes (u :: after) := by
  induction before using utf8Bytes.induct with
  | case1 => rfl
  | case2 w =>
    -- A high surrogate is not the second half of a pair.
    have hlow : ¬isLowSurrogate u := by
      rw [isHighSurrogate_iff] at hu
      rw [isLowSurrogate_iff]
      omega
    rw [List.singleton_append, utf8Bytes.eq_3, if_neg (by simp [hlow])]
    rfl
  | case3 w w' rest h ih =>
    rw [List.cons_append, List.cons_append, utf8Bytes, if_pos h, utf8Bytes, if_pos h, ih,
      List.append_assoc]
  | case4 w w' rest h ih =>
    rw [List.cons_append, List.cons_append, utf8Bytes, if_neg h, utf8Bytes, if_neg h,
      ← List.cons_append, ih, List.append_assoc]

section characters

variable (c : Char)

theorem toNat_valid : c.toNat < 0xd800 ∨ 0xdfff < c.toNat ∧ c.toNat < 0x110000 := c.valid

theorem utf8Bytes_utf16 (s : JsString) :
    utf8Bytes (utf16 c.toNat ++ s) = utf8Code c.toNat ++ utf8Bytes s := by
  have hvalid := toNat_valid c
  rw [utf16]
  split_ifs with h
  · rw [List.singleton_append, utf8Bytes_unit, Fin.val_ofNat, Nat.mod_eq_of_lt h]
    rw [isHighSurrogate_iff, Fin.val_ofNat]
    omega
  · rw [List.cons_append, List.singleton_append, utf8Bytes_pair]
    · refine congrArg (utf8Code · ++ utf8Bytes s) ?_
      simp only [Fin.val_ofNat]
      omega
    · rw [isHighSurrogate_iff, Fin.val_ofNat]
      omega
    · rw [isLowSurrogate_iff, Fin.val_ofNat]
      omega

theorem utf8Code_toNat : utf8Code c.toNat = (String.utf8EncodeChar c).map UInt8.toNat := by
  have hvalid := toNat_valid c
  unfold utf8Code String.utf8EncodeChar
  rw [show c.val.toNat = c.toNat from rfl]
  simp only [← Nat.lt_succ_iff]
  split_ifs <;>
    simp only [List.map_cons, List.map_nil, UInt8.toNat_ofNat', List.cons.injEq, and_true] <;> omega

end characters

/-- Different texts have different bytes, a sequence of characters has those of the standard,
and a surrogate pair is read as one code point wherever it stands. -/
structure EncodesText : Prop where
  injective : Function.Injective utf8Bytes
  standard : ∀ chars : List Char, utf8Bytes (chars.flatMap fun c => utf16 c.toNat) =
    (chars.flatMap String.utf8EncodeChar).map UInt8.toNat
  pairs : ∀ (before after : JsString) (u v : CodeUnit), isHighSurrogate u → isLowSurrogate v →
    utf8Bytes (before ++ u :: v :: after) = utf8Bytes before ++
      (utf8Code (0x10000 + (u.val - 0xd800) * 1024 + (v.val - 0xdc00)) ++ utf8Bytes after)

theorem utf8Bytes_encodesText : EncodesText where
  injective := utf8Bytes_injective
  standard := by
    intro chars
    induction chars with
    | nil => rfl
    | cons c rest ih =>
      rw [List.flatMap_cons, utf8Bytes_utf16, ih, List.flatMap_cons, List.map_append,
        utf8Code_toNat]
  pairs := by
    intro before after u v hu hv
    rw [utf8Bytes_append hu, utf8Bytes_pair hu hv]

end OptimiqVoice.Routing.Sha256

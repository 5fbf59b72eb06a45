import OptimiqVoice.Lib.Text

namespace OptimiqVoice.Lib

theorem unit_val_of_isDigit {c : Char} (h : c.isDigit) : (unit c).val = c.toNat := by
  have hle : c.toNat ≤ 57 := by
    simp only [Char.isDigit, Bool.and_eq_true, decide_eq_true_eq] at h
    exact UInt32.le_iff_toNat_le.mp h.2
  exact Nat.mod_eq_of_lt (by omega)

theorem isDigit_unit {c : Char} (h : c.isDigit) : isDigit (unit c) := by
  have hval := unit_val_of_isDigit h
  simp only [Char.isDigit, Bool.and_eq_true, decide_eq_true_eq] at h
  simp only [isDigit, Bool.and_eq_true, decide_eq_true_eq, Fin.le_def, hval]
  exact ⟨UInt32.le_iff_toNat_le.mp h.1, UInt32.le_iff_toNat_le.mp h.2⟩

theorem natText_isDigit {n : Nat} {u : CodeUnit} (h : u ∈ natText n) : isDigit u := by
  obtain ⟨c, hc, rfl⟩ := List.mem_map.mp h
  exact isDigit_unit (Nat.isDigit_of_mem_toDigits (by decide) (by decide) hc)

theorem foldl_digits {l : List Char} (h : ∀ c ∈ l, c.isDigit) (acc : Nat) :
    l.foldl (fun acc c => acc * 10 + digitValue (unit c)) acc = Nat.ofDigitChars 10 l acc := by
  induction l generalizing acc with
  | nil => rfl
  | cons c rest ih =>
    have hc := unit_val_of_isDigit (h c List.mem_cons_self)
    rw [List.foldl_cons, ih (fun d hd => h d (List.mem_cons_of_mem c hd)), Nat.ofDigitChars_cons,
      digitValue, hc, Nat.mul_comm]
    rfl

theorem digitsValue_natText (n : Nat) : digitsValue (natText n) = n := by
  rw [digitsValue, natText, List.foldl_map, foldl_digits, Nat.ofDigitChars_ten_toDigits]
  exact fun c hc => Nat.isDigit_of_mem_toDigits (by decide) (by decide) hc

theorem all_isDigit_natText (n : Nat) : (natText n).all isDigit :=
  List.all_eq_true.mpr fun _ hu => natText_isDigit hu

theorem canonicalInt_intText (i : Int) : canonicalInt (intText i) = some i := by
  rw [canonicalInt]
  cases i with
  | ofNat n => simp [intText, digitsValue_natText, all_isDigit_natText]
  | negSucc n =>
    have hdrop : (intText (.negSucc n)).drop 1 = natText (n + 1) := rfl
    have hhead : (intText (.negSucc n)).head? = some (unit '-') := rfl
    have hnot : (intText (.negSucc n)).all isDigit = false := rfl
    have hneg : -((digitsValue (natText (n + 1)) : Nat) : Int) = .negSucc n := by
      rw [digitsValue_natText]
      rfl
    simp only [hnot, hdrop, hhead, hneg, all_isDigit_natText, Bool.false_and, decide_true,
      Bool.and_true, Bool.false_eq_true, if_false, if_true]

end OptimiqVoice.Lib

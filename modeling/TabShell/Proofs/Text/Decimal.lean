import TabShell.Text.Decimal
/-!
# The digits of a decimal number

* `toNat_of_isDigit`       where the ASCII digits are;
* `exists_decimal_cons`    a number has a first digit;
* `decimal_of_zero_cons`   only zero is written with a zero in front.
-/

namespace TabShell.Text

theorem isDigit_decimal {n : Nat} {c : Char} (hc : c ∈ decimal n) : c.isDigit = true :=
  Nat.isDigit_of_mem_toDigits (by decide) (by decide) hc

theorem toNat_of_isDigit {c : Char} (h : c.isDigit = true) : 48 ≤ c.toNat ∧ c.toNat ≤ 57 := by
  simp only [Char.isDigit, Bool.and_eq_true, decide_eq_true_eq] at h
  exact h

theorem ne_of_isDigit {c d : Char} (hc : c.isDigit = true) (hd : d.isDigit = false) : c ≠ d := by
  rintro rfl
  cases hc.symm.trans hd

theorem exists_decimal_cons (n : Nat) : ∃ c t, decimal n = c :: t ∧ c.isDigit = true := by
  obtain ⟨c, t, ht⟩ := List.exists_cons_of_ne_nil (Nat.toDigits_ne_nil (n := n) (b := 10))
  exact ⟨c, t, ht, isDigit_decimal (n := n) (by rw [decimal, ht]; exact List.mem_cons_self ..)⟩

/-- only zero is written with a zero in front -/
theorem decimal_of_zero_cons {n : Nat} {t : List Char} (h : decimal n = '0' :: t) :
    t = [] := by
  unfold decimal at h
  induction n using Nat.strongRecOn generalizing t with
  | ind n ih =>
    rw [Nat.toDigits_eq_if (by decide)] at h
    split at h
    · exact (List.cons.inj h).2.symm
    · next hn =>
      obtain ⟨c, u, hu⟩ := List.exists_cons_of_ne_nil (Nat.toDigits_ne_nil (n := n / 10) (b := 10))
      rw [hu] at h
      obtain ⟨rfl, -⟩ := List.cons.inj h
      have hnil := ih (n / 10) (by omega) hu
      -- then the digits of `n / 10` are a single zero, and `n` has one digit
      have hvalue := Nat.ofDigitChars_toDigits (b := 10) (n := n / 10) (by decide) (by decide)
      rw [hu, hnil] at hvalue
      have hzero : n / 10 = 0 := hvalue.symm
      omega

end TabShell.Text

import Mathlib.Data.List.Induction
import TabShell.Proofs.Text.Decimal
/-!
# Numbers read into a word

Digits go into a word one after the other, and what does not fit is noticed on the way, at a
product or at a sum.  The word comes out exactly when the number is one, however many digits there
are: what the digits read so far stand for never exceeds what all of them do.

* `Digits`, `Spells`         texts of digits with their numbers, and the same with a `+` in front;
* `extend?_eq_some_iff`      one digit more is exact, or there is none;
* `foldlM_extend?`           so are all of them;
* `word64?_eq_some_iff`      the texts of a word;
* `word64?_eq_none_iff`      the texts of no word stand for nothing, or for too much;
* `spells_iff`               a number is written as its digits, with zeros in front and maybe a `+`.
-/

namespace TabShell.Text

/-- texts of ASCII digits and the numbers they stand for: with one digit more the number is ten
times as large, and the digit -/
inductive Digits : List Char → Nat → Prop
  | nil : Digits [] 0
  | append {s : List Char} {n : Nat} (before : Digits s n) (d : Fin 10) :
      Digits (s ++ [Nat.digitChar d]) (10 * n + d)

/-- one or more digits that stand for `n`, behind a `+` or nothing -/
def Spells (s : List Char) (n : Nat) : Prop :=
  ∃ t, (s = t ∨ s = '+' :: t) ∧ t ≠ [] ∧ Digits t n

variable {s t : List Char} {c : Char} {m n : Nat} {v w : UInt64}

theorem digits_concat :
    Digits (s ++ [c]) n ↔ ∃ m, Digits s m ∧ ∃ d : Fin 10, c = Nat.digitChar d ∧ n = 10 * m + d := by
  constructor
  · intro h
    generalize hs : s ++ [c] = t at h
    cases h with
    | nil => cases List.append_ne_nil_of_right_ne_nil s (List.cons_ne_nil c []) hs
    | append before d =>
      obtain ⟨rfl, hc⟩ := List.append_inj' hs rfl
      exact ⟨_, before, d, List.singleton_inj.mp hc, rfl⟩
  · rintro ⟨m, hm, d, rfl, rfl⟩
    exact .append hm d

theorem digits_nil : Digits [] n ↔ n = 0 := by
  constructor
  · intro h
    generalize hs : [] = t at h
    cases h with
    | nil => rfl
    | append before d => cases List.append_ne_nil_of_right_ne_nil _ (List.cons_ne_nil _ []) hs.symm
  · rintro rfl
    exact .nil

/-! ## one digit more -/

theorem exists_word (h : n < UInt64.size) : ∃ w : UInt64, w.toNat = n :=
  ⟨.ofNat n, UInt64.toNat_ofNat_of_lt' h⟩

theorem guarded_eq_some_iff (hv : v.toNat = n % UInt64.size) :
    (if n < UInt64.size then some v else none) = some w ↔ w.toNat = n := by
  rw [Option.ite_none_right_eq_some, Option.some_inj]
  constructor
  · rintro ⟨hlt, rfl⟩
    rw [hv, Nat.mod_eq_of_lt hlt]
  · intro hw
    have hlt : n < UInt64.size := hw ▸ w.toNat_lt
    rw [Nat.mod_eq_of_lt hlt, ← hw] at hv
    exact ⟨hlt, UInt64.toNat_inj.mp hv⟩

theorem times?_eq_some_iff {u : UInt64} : times? u v = some w ↔ w.toNat = u.toNat * v.toNat :=
  guarded_eq_some_iff (UInt64.toNat_mul u v)

theorem plus?_eq_some_iff {u : UInt64} : plus? u v = some w ↔ w.toNat = u.toNat + v.toNat :=
  guarded_eq_some_iff (UInt64.toNat_add u v)

theorem exists_digitChar (h : c.isDigit = true) :
    ∃ d : Fin 10, c = Nat.digitChar d ∧ c.toNat - '0'.toNat = d := by
  have hrange := toNat_of_isDigit h
  have hlt : c.toNat - 48 < 10 := by omega
  refine ⟨⟨_, hlt⟩, ?_, rfl⟩
  apply Char.toNat_inj.mp
  rw [Nat.toNat_digitChar_of_lt_ten hlt]
  omega

theorem digit?_eq_some_iff : digit? c = some w ↔ ∃ d : Fin 10, c = Nat.digitChar d ∧ w.toNat = d := by
  have hword : ∀ d : Fin 10, (UInt64.ofNat d).toNat = d := by
    intro d
    apply UInt64.toNat_ofNat_of_lt'
    exact Nat.lt_trans d.isLt (by decide)
  unfold digit?
  rw [Option.ite_none_right_eq_some, Option.some_inj]
  constructor
  · rintro ⟨hc, rfl⟩
    obtain ⟨d, hchar, hd⟩ := exists_digitChar hc
    refine ⟨d, hchar, ?_⟩
    rw [hd, hword]
  · rintro ⟨d, rfl, hw⟩
    have hsub : (Nat.digitChar d).toNat - '0'.toNat = d :=
      Nat.toNat_digitChar_sub_48_of_lt_ten d.isLt
    refine ⟨?_, ?_⟩
    · rw [Nat.isDigit_digitChar, decide_eq_true d.isLt]
    · apply UInt64.toNat_inj.mp
      rw [hsub, hword, hw]

theorem extend?_eq_some_iff :
    extend? v c = some w ↔ ∃ d : Fin 10, c = Nat.digitChar d ∧ w.toNat = 10 * v.toNat + d := by
  have hten : (10 : UInt64).toNat = 10 := rfl
  unfold extend?
  simp only [Option.bind_eq_bind, Option.bind_eq_some_iff, times?_eq_some_iff, digit?_eq_some_iff,
    plus?_eq_some_iff]
  constructor
  · rintro ⟨tens, htens, ones, ⟨d, hc, hones⟩, hw⟩
    refine ⟨d, hc, ?_⟩
    rw [hw, htens, hones, hten, Nat.mul_comm]
  · rintro ⟨d, hc, hw⟩
    -- the product is no larger than the sum, and that is a word
    have hlt := w.toNat_lt
    obtain ⟨tens, htens⟩ := exists_word (n := 10 * v.toNat) (show _ < 2 ^ 64 by omega)
    obtain ⟨ones, hones⟩ := exists_word (n := d) (show _ < 2 ^ 64 by omega)
    refine ⟨tens, ?_, ones, ⟨d, hc, hones⟩, ?_⟩
    · rw [htens, hten, Nat.mul_comm]
    · rw [hw, htens, hones]

/-! ## all digits -/

theorem foldlM_extend? : s.foldlM extend? 0 = some w ↔ Digits s w.toNat := by
  induction s using List.reverseRecOn generalizing w with
  | nil =>
    rw [digits_nil]
    show some 0 = some w ↔ w.toNat = (0 : UInt64).toNat
    rw [Option.some_inj, UInt64.toNat_inj, eq_comm]
  | append_singleton s c ih =>
    rw [List.foldlM_append, digits_concat]
    simp only [List.foldlM_cons, List.foldlM_nil, bind_pure, Option.bind_eq_bind,
      Option.bind_eq_some_iff, ih, extend?_eq_some_iff]
    constructor
    · rintro ⟨v, hv, hc⟩
      exact ⟨v.toNat, hv, hc⟩
    · rintro ⟨m, hm, d, hc, hw⟩
      -- what stands before the last digit is no larger than the whole
      have hlt := w.toNat_lt
      obtain ⟨v, rfl⟩ := exists_word (n := m) (show _ < 2 ^ 64 by omega)
      exact ⟨v, hm, d, hc, hw⟩

theorem unsigned?_eq_some_iff : unsigned? s = some w ↔ s ≠ [] ∧ Digits s w.toNat := by
  unfold unsigned?
  rw [Option.ite_none_left_eq_some, foldlM_extend?]

theorem Digits.isDigit (h : Digits s n) : ∀ c ∈ s, c.isDigit = true := by
  induction h with
  | nil => exact nofun
  | append before d ih =>
    intro c hc
    rcases List.mem_append.mp hc with hc | hc
    · exact ih c hc
    · rw [List.mem_singleton.mp hc, Nat.isDigit_digitChar, decide_eq_true d.isLt]

theorem not_digits_plus : ¬ Digits ('+' :: t) n := by
  intro h
  cases h.isDigit '+' (List.mem_cons_self ..)

theorem word64?_eq_some_iff : word64? s = some w ↔ Spells s w.toNat := by
  unfold word64? Spells
  split
  · next r =>
    rw [unsigned?_eq_some_iff]
    constructor
    · rintro ⟨hne, hr⟩
      exact ⟨r, .inr rfl, hne, hr⟩
    · rintro ⟨t, rfl | hplus, hne, ht⟩
      · cases not_digits_plus ht
      · cases hplus
        exact ⟨hne, ht⟩
  · next hsign =>
    rw [unsigned?_eq_some_iff]
    constructor
    · rintro ⟨hne, hs⟩
      exact ⟨s, .inl rfl, hne, hs⟩
    · rintro ⟨t, rfl | hplus, hne, ht⟩
      · exact ⟨hne, ht⟩
      · cases hsign t hplus

/-- the texts of no word stand for nothing, or for too much -/
theorem word64?_eq_none_iff : word64? s = none ↔ ∀ n, Spells s n → UInt64.size ≤ n := by
  constructor
  · intro hnone n hn
    by_contra hlt
    obtain ⟨w, rfl⟩ := exists_word (Nat.lt_of_not_le hlt)
    rw [word64?_eq_some_iff.mpr hn] at hnone
    cases hnone
  · intro hlarge
    cases hs : word64? s with
    | none => rfl
    | some w =>
      have hle := hlarge w.toNat (word64?_eq_some_iff.mp hs)
      cases Nat.not_lt_of_le hle w.toNat_lt

/-! ## how a number is written -/

theorem digits_zeros (k : Nat) : Digits (List.replicate k '0') 0 := by
  induction k with
  | zero => exact .nil
  | succ k ih =>
    rw [List.replicate_succ']
    exact .append ih 0

theorem decimal_digit (d : Fin 10) : decimal d = [Nat.digitChar d] := Nat.toDigits_of_lt_base d.isLt

theorem decimal_append_digit (hn : 0 < n) (d : Fin 10) :
    decimal n ++ [Nat.digitChar d] = decimal (10 * n + d) := by
  rw [← decimal_digit]
  exact Nat.toDigits_append_toDigits (by decide) hn d.isLt

theorem digits_append_decimal (h : Digits s 0) (n : Nat) : Digits (s ++ decimal n) n := by
  induction n using Nat.strongRecOn with
  | ind n ih =>
    let d : Fin 10 := ⟨n % 10, Nat.mod_lt n (by decide)⟩
    have hn : 10 * (n / 10) + d = n := Nat.div_add_mod n 10
    by_cases hzero : n / 10 = 0
    · have hd : decimal n = [Nat.digitChar d] := by
        rw [← decimal_digit, ← hn, hzero, Nat.mul_zero, Nat.zero_add]
      rw [hd]
      exact digits_concat.mpr ⟨0, h, d, rfl, by omega⟩
    · have hd : decimal n = decimal (n / 10) ++ [Nat.digitChar d] := by
        rw [decimal_append_digit (Nat.pos_of_ne_zero hzero), hn]
      rw [hd, ← List.append_assoc]
      exact digits_concat.mpr ⟨n / 10, ih (n / 10) (by omega), d, rfl, hn.symm⟩

theorem Digits.exists_zeros (h : Digits s n) (hs : s ≠ []) :
    ∃ k, s = List.replicate k '0' ++ decimal n := by
  induction h with
  | nil => cases hs rfl
  | @append s m before d ih =>
    by_cases hnil : s = []
    · subst hnil
      rw [digits_nil.mp before, Nat.mul_zero, Nat.zero_add, decimal_digit]
      exact ⟨0, rfl⟩
    · obtain ⟨k, hk⟩ := ih hnil
      by_cases hm : m = 0
      · -- a zero read before the last digit is one more in front
        subst hm
        have hzeros : s = List.replicate (k + 1) '0' := by
          rw [hk, List.replicate_succ']
          rfl
        rw [hzeros, Nat.mul_zero, Nat.zero_add, decimal_digit]
        exact ⟨k + 1, rfl⟩
      · rw [hk, List.append_assoc, decimal_append_digit (Nat.pos_of_ne_zero hm)]
        exact ⟨k, rfl⟩

/-- a number is written as its digits, with zeros in front and maybe a `+` before them -/
theorem spells_iff : Spells s n ↔
    ∃ k, s = List.replicate k '0' ++ decimal n ∨ s = '+' :: (List.replicate k '0' ++ decimal n) := by
  constructor
  · rintro ⟨t, hs, hne, ht⟩
    obtain ⟨k, rfl⟩ := ht.exists_zeros hne
    exact ⟨k, hs⟩
  · rintro ⟨k, hs⟩
    refine ⟨List.replicate k '0' ++ decimal n, hs, ?_, digits_append_decimal (digits_zeros k) n⟩
    exact List.append_ne_nil_of_right_ne_nil _ Nat.toDigits_ne_nil

theorem Digits.eq (hm : Digits s m) (hn : Digits s n) : m = n := by
  induction hm generalizing n with
  | nil => exact (digits_nil.mp hn).symm
  | append before d ih =>
    obtain ⟨m, hm, e, hchar, rfl⟩ := digits_concat.mp hn
    have hde : (d : Nat) = e := by
      have hcode := congrArg Char.toNat hchar
      rw [Nat.toNat_digitChar_of_lt_ten d.isLt, Nat.toNat_digitChar_of_lt_ten e.isLt] at hcode
      omega
    rw [ih hm, hde]

/-- a text stands for one number at most -/
theorem Spells.eq (hm : Spells s m) (hn : Spells s n) : m = n := by
  obtain ⟨t, hs, -, ht⟩ := hm
  obtain ⟨u, hs', -, hu⟩ := hn
  rcases hs with rfl | rfl
  · rcases hs' with rfl | rfl
    · exact ht.eq hu
    · cases not_digits_plus ht
  · rcases hs' with rfl | hplus
    · cases not_digits_plus hu
    · cases hplus
      exact ht.eq hu

end TabShell.Text

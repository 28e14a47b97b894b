import Mathlib.Data.List.TakeWhile
import TabShell.Config.Printer
import TabShell.Proofs.Text.Decimal
/-!
# Written values

Strings, numbers and booleans are read as what they were written for, whatever comes in the lines
after them.

* `Reads`            a text that is read as a value at the end of its line;
* `word_append`      a word ends with its line;
* `integer?_decimal`   a number without sign is read as that number;
* `reads_written`, `reads_decimal`, `reads_bool`   the values that are written.
-/

namespace TabShell.Toml

open Text

/-- a text that is read as a value if the line ends there; it does not begin with a blank -/
structure Reads (text : List Char) (v : Value) : Prop where
  starts : ∃ c t, text = c :: t ∧ isBlank c = false
  read : ∀ r, value? nestingLimit (text ++ '\n' :: r) = some (v, '\n' :: r)

/-! ## strings -/

/-- marks in a text are escaped, so that two marks of a string are its ends -/
theorem string?_written (s : String) (r : List Char) :
    string? (written s ++ '\n' :: r) = some (s.toList, '\n' :: r) := by
  have hinside := basic?_escape s.toList ('\n' :: r)
  have htext : written s ++ '\n' :: r = '"' :: (escape s.toList ++ '"' :: '\n' :: r) := by
    simp [written]
  rw [htext]
  unfold string?
  split
  · next t ht =>
    -- the inside would have to be empty, and then a line end be a third mark
    rw [(List.cons.inj ht).2] at hinside
    obtain ⟨-, hrest⟩ := Prod.mk.inj (Option.some.inj hinside)
    cases hrest
  · next t ht => cases (List.cons.inj ht).1
  · next t ht =>
    rw [← (List.cons.inj ht).2]
    exact hinside
  · next t ht => cases (List.cons.inj ht).1
  · next hmark _ => exact absurd rfl (hmark _)

theorem reads_written (s : String) : Reads (written s) (.text s) where
  starts := ⟨'"', _, rfl, rfl⟩
  read r := by
    have hvalue : value? nestingLimit (written s ++ '\n' :: r) =
        (string? (written s ++ '\n' :: r)).map fun p => (.text (String.ofList p.1), p.2) := rfl
    rw [hvalue, string?_written, Option.map_some, String.ofList_toList]

/-! ## words -/

/-- a word ends with its line -/
theorem word_append {s : List Char} (hs : ∀ c ∈ s, isWordChar c = true) (r : List Char) :
    word (s ++ '\n' :: r) = (s, '\n' :: r) := by
  induction s with
  | nil => rfl
  | cons c s ih =>
    rw [List.cons_append, word, if_pos (.inl (hs c List.mem_cons_self)),
      ih fun d hd => hs d (List.mem_cons_of_mem c hd)]
    rfl

/-- a word that begins as no other value does is read as the scalar that it is -/
theorem reads_word {c : Char} {t : List Char} {v : Value}
    (hall : (c :: t).all isWordChar = true) (hmark : c ≠ '"' ∧ c ≠ '\'')
    (hv : scalar? (c :: t) = some v) : Reads (c :: t) v where
  starts := by
    refine ⟨c, t, rfl, ?_⟩
    cases hblank : isBlank c with
    | false => rfl
    | true =>
      unfold isBlank at hblank
      simp only [Bool.or_eq_true, decide_eq_true_eq] at hblank
      rcases hblank with rfl | rfl <;> cases hall
  read r := by
    have hword := List.all_eq_true.mp hall
    have hc : isWordChar c = true := hword c List.mem_cons_self
    have hsimple : simpleValue? (c :: t ++ '\n' :: r) = some (v, '\n' :: r) := by
      unfold simpleValue?
      split
      · next h => exact absurd (List.cons.inj h).1 hmark.1
      · next h => exact absurd (List.cons.inj h).1 hmark.2
      · rw [word_append hword, hv, Option.map_some]
    unfold nestingLimit value?
    split
    · next h =>
      obtain ⟨rfl, -⟩ := List.cons.inj h
      cases hc
    · next h =>
      obtain ⟨rfl, -⟩ := List.cons.inj h
      cases hc
    · exact hsimple

theorem reads_bool (b : Bool) :
    Reads (if b then ['t', 'r', 'u', 'e'] else ['f', 'a', 'l', 's', 'e']) (.bool b) := by
  cases b <;> exact reads_word (by decide) (by decide) rfl

/-! ## numbers -/

theorem startsWhole_decimal (n : Nat) : startsWhole (decimal n) = true := by
  obtain ⟨c, t, hdecimal, hdigit⟩ := exists_decimal_cons n
  have hzero : hasLeadingZero (decimal n) = false := by
    unfold hasLeadingZero
    by_cases hc : c = '0'
    · subst hc
      obtain rfl := decimal_of_zero_cons hdecimal
      rw [hdecimal]
      rfl
    · simp [hdecimal, hc]
  have hdigits : (decimal n).dropWhile Char.isDigit = [] := by
    exact List.dropWhile_eq_nil_iff.mpr fun _ => isDigit_decimal
  unfold startsWhole
  rw [hzero, hdigits, hdecimal]
  simp [hdigit]

theorem whole?_decimal (n : Nat) : whole? (decimal n) = some (some n) := by
  have hmarks : (decimal n).any isNoInteger = false := by
    rw [List.any_eq_false]
    intro c hc
    have hne : ∀ d, d.isDigit = false → c ≠ d := fun _ => ne_of_isDigit (isDigit_decimal hc)
    simp [isNoInteger, hne]
  have hgroups : ungroup? isHexDigit (decimal n) = some (decimal n) := by
    exact ungroup?_of_forall_ne fun c hc => ne_of_isDigit (isDigit_decimal hc) rfl
  have hall : (decimal n).all Char.isDigit = true :=
    List.all_eq_true.mpr fun _ => isDigit_decimal
  unfold whole?
  rw [if_neg (by simp [startsWhole_decimal, hmarks]), hgroups, Option.map_some, if_pos hall,
    decimal, Nat.ofDigitChars_toDigits (by decide) (by decide)]

/-- a number without sign is read as that number -/
theorem integer?_decimal (n : Nat) : integer? (decimal n) = some (some (n : Int)) := by
  obtain ⟨c, t, hdecimal, hdigit⟩ := exists_decimal_cons n
  have hsign : signed (decimal n) = (false, decimal n) := by
    rw [hdecimal]
    unfold signed
    split
    · next h => exact absurd (List.cons.inj h).1 (ne_of_isDigit hdigit rfl)
    · next h => exact absurd (List.cons.inj h).1 (ne_of_isDigit hdigit rfl)
    · rfl
  unfold integer?
  split
  -- a number that begins with a zero has no second character
  iterate 3
    · next h => exact absurd (decimal_of_zero_cons h) (List.cons_ne_nil _ _)
  · rw [hsign, whole?_decimal]
    rfl

theorem scalar?_decimal (n : Nat) : scalar? (decimal n) = some (.integer (some n)) := by
  obtain ⟨c, t, hdecimal, hdigit⟩ := exists_decimal_cons n
  have hbool : ∀ {d : Char} {u : List Char}, d.isDigit = false → decimal n ≠ d :: u := by
    intro d u hd h
    exact ne_of_isDigit hdigit hd (List.cons.inj (hdecimal.symm.trans h)).1
  unfold scalar?
  rw [if_neg (hbool rfl), if_neg (hbool rfl), integer?_decimal]

theorem isWordChar_of_isDigit {c : Char} (hc : c.isDigit = true) : isWordChar c = true := by
  cases hword : isWordChar c with
  | true => rfl
  | false =>
    unfold isWordChar isWordEnd at hword
    simp only [Bool.not_eq_false', decide_eq_true_eq, List.mem_cons, List.not_mem_nil,
      or_false] at hword
    rcases hword with rfl | rfl | rfl | rfl | rfl | rfl | rfl | rfl | rfl | rfl | rfl <;> cases hc

theorem reads_decimal (n : Nat) : Reads (decimal n) (.integer (some n)) := by
  obtain ⟨c, t, hdecimal, hdigit⟩ := exists_decimal_cons n
  have hscalar := scalar?_decimal n
  have hword : (decimal n).all isWordChar = true :=
    List.all_eq_true.mpr fun _ hd => isWordChar_of_isDigit (isDigit_decimal hd)
  rw [hdecimal] at hscalar hword ⊢
  exact reads_word hword ⟨ne_of_isDigit hdigit rfl, ne_of_isDigit hdigit rfl⟩ hscalar

end TabShell.Toml

/-!
# Decimal numbers

* `digits? s`     the value of a text of ASCII digits, however long;
* `word64? s`     an optional `+` and digits, one after the other put into a 64-bit word;
* `decimal n`     the digits of `n`, without leading zeros.

`digits?_decimal` says that what is written reads back.
-/

namespace TabShell.Text

/-- the value of one or more ASCII digits -/
def digits? (s : List Char) : Option Nat :=
  if s ≠ [] ∧ s.all Char.isDigit = true then some (Nat.ofDigitChars 10 s 0) else none

/-- the product of two words, if it is a word -/
def times? (m n : UInt64) : Option UInt64 :=
  if m.toNat * n.toNat < UInt64.size then some (m * n) else none

/-- the sum of two words, if it is a word -/
def plus? (m n : UInt64) : Option UInt64 :=
  if m.toNat + n.toNat < UInt64.size then some (m + n) else none

/-- the value of an ASCII digit -/
def digit? (c : Char) : Option UInt64 :=
  if c.isDigit = true then some (UInt64.ofNat (c.toNat - '0'.toNat)) else none

/-- a word with one digit more -/
def extend? (n : UInt64) (c : Char) : Option UInt64 := do
  let tens ← times? n 10
  let ones ← digit? c
  plus? tens ones

/-- the word of one or more digits -/
def unsigned? (s : List Char) : Option UInt64 :=
  if s = [] then none else s.foldlM extend? 0

/-- the word of an optional `+` and one or more digits -/
def word64? (s : List Char) : Option UInt64 :=
  match s with
  | '+' :: r => unsigned? r
  | _ => unsigned? s

/-- the decimal digits of a number -/
def decimal (n : Nat) : List Char := Nat.toDigits 10 n

/-- what is written reads back -/
theorem digits?_decimal (n : Nat) : digits? (decimal n) = some n := by
  have hall : (decimal n).all Char.isDigit = true := by
    rw [List.all_eq_true]
    exact fun c hc => Nat.isDigit_of_mem_toDigits (by decide) (by decide) hc
  have hne : decimal n ≠ [] := Nat.toDigits_ne_nil
  rw [digits?, if_pos ⟨hne, hall⟩, decimal, Nat.ofDigitChars_toDigits (by decide) (by decide)]

end TabShell.Text

import TabShell.Toml.Value
import TabShell.Toml.Quoted
/-!
# Unquoted scalars

Booleans, numbers, dates and times are written without quotation marks; which of them a word is,
its characters tell.  A word can be one for an integer and still name none, as `0x` does: that
only matters where the integer is asked for.

* `ungroup?`    a text without the underscores between its digits;
* `integer?`, `float?`, `isMoment`   the words of each kind;
* `scalar?`     the value of a word;
* `word`        the word at the front of a text, blanks inside it and all.
-/

namespace TabShell.Toml

open Text

/-! ## numbers -/

/-- whether a character is a digit of some base -/
def isHexDigit (c : Char) : Bool := (hexValue? c).isSome

/-- a text without its underscores, each of which stands between two digits -/
def ungroup? (isDigit : Char → Bool) : List Char → Option (List Char)
  | [] => some []
  | c :: '_' :: d :: r =>
    if isDigit c ∧ isDigit d then (ungroup? isDigit (d :: r)).map (c :: ·) else none
  | c :: r => if c = '_' ∨ r = ['_'] then none else (ungroup? isDigit r).map (c :: ·)

/-- a text without underscores is left as it is -/
theorem ungroup?_of_forall_ne {isDigit : Char → Bool} {s : List Char} (h : ∀ c ∈ s, c ≠ '_') :
    ungroup? isDigit s = some s := by
  fun_induction ungroup? isDigit s with
  | case1 => rfl
  | case2 c d r _ _ => exact absurd rfl (h '_' (by simp))
  | case3 c d r _ => exact absurd rfl (h '_' (by simp))
  | case4 c r _ hbad =>
    rcases hbad with hc | hr
    · exact absurd hc (h c (by simp))
    · exact absurd rfl (h '_' (by simp [hr]))
  | case5 c r _ _ ih => simp [ih fun d hd => h d (by simp [hd])]

/-- decimal digits, at least one, underscores between them dropped -/
def decimalDigits? (s : List Char) : Option (List Char) :=
  (ungroup? Char.isDigit s).filter fun ds => decide (ds ≠ []) && ds.all Char.isDigit

/-- whether a number of more than one digit starts with a zero -/
def hasLeadingZero (ds : List Char) : Bool := ds.head? = some '0' && decide (ds ≠ ['0'])

/-- whether there is a minus, and what follows the sign, if there is one -/
def signed (s : List Char) : Bool × List Char :=
  match s with
  | '+' :: r => (false, r)
  | '-' :: r => (true, r)
  | _ => (false, s)

/-- the characters that no word for an integer has: the marks of floats, and the space -/
def isNoInteger (c : Char) : Bool := c ∈ ['.', 'e', 'E', ' ']

/-- whether a text starts as a decimal integer does: with digits, and after them, if anything, an
underscore -/
def startsWhole (s : List Char) : Bool :=
  s.head?.any Char.isDigit && !hasLeadingZero s &&
    (s.dropWhile Char.isDigit).head?.all (· = '_')

/-- the number that a decimal integer without sign names; after an underscore it may go on with
other characters, and names none -/
def whole? (s : List Char) : Option (Option Nat) :=
  if startsWhole s = false ∨ s.any isNoInteger then none
  else (ungroup? isHexDigit s).map fun ds =>
    if ds.all Char.isDigit then some (Nat.ofDigitChars 10 ds 0) else none

/-- the number that digits of another base name, leading zeros allowed; no digits name none -/
def based? (base : Nat) (s : List Char) : Option (Option Nat) := do
  let ds ← (ungroup? isHexDigit s).filter fun ds =>
    ds.all fun c => (hexValue? c).any (· < base)
  pure (if ds = [] then none else ds.foldlM (fun n c => (hexValue? c).map (n * base + ·)) 0)

/-- the integer that a word names, if it is one for integers: decimal with an optional sign, or of
another base without -/
def integer? (s : List Char) : Option (Option Int) :=
  match s with
  | '0' :: 'x' :: r => (based? 16 r).map (·.map Int.ofNat)
  | '0' :: 'o' :: r => (based? 8 r).map (·.map Int.ofNat)
  | '0' :: 'b' :: r => (based? 2 r).map (·.map Int.ofNat)
  | _ =>
    (whole? (signed s).2).map fun n? =>
      n?.map fun n => if (signed s).1 then -Int.ofNat n else Int.ofNat n

/-- the least decimal that rounds to no double: halfway from the greatest double to the next -/
def doubleBound : Nat := Nat.pow 2 1024 - Nat.pow 2 970

/-- whether digits times a power of ten round to a double -/
def inDoubleRange (digits : List Char) (exponent : Int) : Bool :=
  let significant := digits.dropWhile (· = '0')
  let n := Nat.ofDigitChars 10 significant 0
  let top := exponent + significant.length
  if significant = [] ∨ top ≤ 308 then true
  else if 310 ≤ top then false
  else if 0 ≤ exponent then decide (n * Nat.pow 10 exponent.toNat < doubleBound)
  else decide (n < doubleBound * Nat.pow 10 (-exponent).toNat)

/-- the part before a mark and, if the mark is there, the part after it -/
def cutAt (isMark : Char → Bool) (s : List Char) : List Char × Option (List Char) :=
  (s.takeWhile fun c => !isMark c, (s.dropWhile fun c => !isMark c).tail?)

/-- the digits of an optional part; none only if it is there and malformed -/
def optionalDigits? : Option (List Char) → Option (List Char)
  | none => some []
  | some s => decimalDigits? s

/-- whether a double can hold what a word for floats names: a decimal with a point or an exponent,
an infinity or no number -/
def float? (s : List Char) : Option Bool :=
  let s := (signed s).2
  if s = ['i', 'n', 'f'] ∨ s = ['n', 'a', 'n'] then some true
  else do
    let (mantissa, exponent) := cutAt (fun c => c = 'e' || c = 'E') s
    let (whole, fraction) := cutAt (· = '.') mantissa
    if exponent = none ∧ fraction = none then none
    let whole ← decimalDigits? whole
    if hasLeadingZero whole then none
    let fraction ← optionalDigits? fraction
    let sign := (exponent.map signed).map (·.1)
    let exponent ← optionalDigits? ((exponent.map signed).map (·.2))
    let magnitude := Int.ofNat (Nat.ofDigitChars 10 exponent 0)
    let power := if sign = some true then -magnitude else magnitude
    pure (inDoubleRange (whole ++ fraction) (power - fraction.length))

/-! ## dates and times -/

/-- two digits of a value in bounds, and what follows -/
def two? (low high : Nat) (s : List Char) : Option (Nat × List Char) :=
  match s with
  | a :: b :: r =>
    let n := Nat.ofDigitChars 10 [a, b] 0
    if a.isDigit ∧ b.isDigit ∧ low ≤ n ∧ n ≤ high then some (n, r) else none
  | _ => none

/-- what follows a character that must be there -/
def expect? (c : Char) (s : List Char) : Option (List Char) :=
  match s with
  | d :: r => if d = c then some r else none
  | [] => none

/-- every fourth year, but of the full centuries only every fourth -/
def isLeap (year : Nat) : Bool := year % 4 = 0 && (year % 100 ≠ 0 || year % 400 = 0)

/-- the length of a month -/
def daysIn (year month : Nat) : Nat :=
  if month = 2 then if isLeap year then 29 else 28
  else if month ∈ [4, 6, 9, 11] then 30
  else 31

/-- a day of the calendar, and what follows -/
def date? (s : List Char) : Option (List Char) := do
  let (century, r) ← two? 0 99 s
  let (year, r) ← two? 0 99 r
  let (month, r) ← two? 1 12 (← expect? '-' r)
  let (_, r) ← two? 1 (daysIn (century * 100 + year) month) (← expect? '-' r)
  pure r

/-- the seconds of a time and their fraction, if they are there -/
def seconds? (s : List Char) : Option (List Char) :=
  match s with
  | ':' :: r => do
    let (_, r) ← two? 0 60 r
    match r with
    | '.' :: r =>
      if r.takeWhile Char.isDigit = [] then none else pure (r.dropWhile Char.isDigit)
    | _ => pure r
  | _ => some s

/-- a time of day, and what follows -/
def time? (s : List Char) : Option (List Char) := do
  let (_, r) ← two? 0 23 s
  let (_, r) ← two? 0 59 (← expect? ':' r)
  seconds? r

/-- whether a text is the offset of a time zone, or empty -/
def isOffset (s : List Char) : Bool :=
  match s with
  | [] => true
  | c :: r =>
    if c = 'Z' ∨ c = 'z' then r = []
    else if c = '+' ∨ c = '-' then
      (do
        let (_, r) ← two? 0 23 r
        let (_, r) ← two? 0 59 (← expect? ':' r)
        pure r) == some []
    else false

/-- whether a word is a date, a time, or a date with a time -/
def isMoment (s : List Char) : Bool :=
  match date? s with
  | some [] => true
  | some (c :: r) =>
    (c = 'T' || c = 't' || c = ' ') &&
      match time? r with
      | some r => isOffset r
      | none => false
  | none => time? s == some []

/-! ## words -/

/-- the characters that end a word -/
def isWordEnd (c : Char) : Bool :=
  c ∈ ['=', ',', '[', ']', '\x7b', '\x7d', '#', ' ', '\t', '\r', '\n']

/-- whether a character goes on with a word -/
def isWordChar (c : Char) : Bool := !isWordEnd c

/-- the value of a word -/
def scalar? (word : List Char) : Option Value :=
  if word = ['t', 'r', 'u', 'e'] then some (.bool true)
  else if word = ['f', 'a', 'l', 's', 'e'] then some (.bool false)
  else match integer? word with
    | some n => some (.integer n)
    | none =>
      match float? word with
      | some inRange => some (.float inRange)
      | none => if isMoment word then some .moment else none

/-- whether a word goes on after blanks: with anything but its end, a point or a string -/
def goesOn (s : List Char) : Bool :=
  (s.dropWhile isBlank).head?.any fun c => isWordChar c && c ∉ ['.', '"', '\'']

/-- the word at the front of a text, and what follows; blanks are part of it if it goes on after
them, as a date does with the time -/
def word : List Char → List Char × List Char
  | [] => ([], [])
  | c :: r =>
    if isWordChar c ∨ (isBlank c = true ∧ goesOn r = true) then consTo c (word r)
    else ([], c :: r)

end TabShell.Toml

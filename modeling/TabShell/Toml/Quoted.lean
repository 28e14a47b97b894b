import TabShell.Text.Hexadecimal
/-!
# Quoted strings

Four kinds of quotation marks: basic strings have escapes and literal strings none, and either can
be on one line or, between triple marks, on several.

* `basic?`, `literal?`               the inside of a string on one line, up to its mark;
* `basicLines?`, `literalLines?`     the same on several lines;
* `string?`                          a string of any kind; `key?` one of the kinds on one line;
* `escape`                           the inside of the basic string of a text.

`basic?_escape` says that an escaped text reads back as it was.
-/

namespace TabShell.Toml

open Text

/-- the characters that may stand in strings and comments: no controls but the tab -/
def isVisible (c : Char) : Bool := c = '\t' || (0x20 ≤ c.toNat && c.toNat ≠ 0x7F)

/-- the blanks that end no line -/
def isBlank (c : Char) : Bool := c = ' ' || c = '\t'

/-- the character of an escape of one letter -/
def shortEscape? (c : Char) : Option Char :=
  [('"', '"'), ('\\', '\\'), ('b', '\x08'), ('e', '\x1b'), ('f', '\x0c'), ('n', '\n'),
    ('r', '\r'), ('t', '\t')].lookup c

/-- the character that hexadecimal digits name; half a surrogate pair is none -/
def coded? (digits : List Char) : Option Char :=
  (hexNumber? digits).bind fun n => if n.isValidChar then some (Char.ofNat n) else none

/-- a character before what was read -/
def consTo (c : Char) (p : List Char × List Char) : List Char × List Char := (c :: p.1, p.2)

/-- the inside of a basic string, and what follows its mark -/
def basic? : List Char → Option (List Char × List Char)
  | [] => none
  | '\\' :: 'x' :: a :: b :: r =>
    (coded? [a, b]).bind fun c => (basic? r).map (consTo c)
  | '\\' :: 'u' :: a :: b :: c :: d :: r =>
    (coded? [a, b, c, d]).bind fun c => (basic? r).map (consTo c)
  | '\\' :: 'U' :: a :: b :: c :: d :: e :: f :: g :: h :: r =>
    (coded? [a, b, c, d, e, f, g, h]).bind fun c => (basic? r).map (consTo c)
  | '\\' :: c :: r => (shortEscape? c).bind fun c => (basic? r).map (consTo c)
  | c :: r =>
    if c = '"' then some ([], r)
    else if c = '\\' ∨ isVisible c = false then none
    else (basic? r).map (consTo c)

/-- marks, backslashes and controls are escaped, all else stands for itself -/
def escapeChar (c : Char) : List Char :=
  if c = '"' then ['\\', '"']
  else if c = '\\' then ['\\', '\\']
  else if c.toNat < 0x20 ∨ c.toNat = 0x7F then
    ['\\', 'u', '0', '0', hexUpper (c.toNat / 16), hexUpper (c.toNat % 16)]
  else [c]

/-- the inside of the basic string of a text -/
def escape (s : List Char) : List Char := s.flatMap escapeChar

private theorem coded?_control :
    ∀ n : Fin 128, coded? ['0', '0', hexUpper (n.val / 16), hexUpper (n.val % 16)] =
      some (Char.ofNat n) := by
  decide

/-- an escaped character reads back, whatever follows -/
theorem basic?_escapeChar_append (c : Char) (r : List Char) :
    basic? (escapeChar c ++ r) = (basic? r).map (consTo c) := by
  unfold escapeChar
  split
  · subst c
    rfl
  split
  · subst c
    rfl
  split
  · rename_i h
    have hc : c.toNat < 128 := by omega
    have key := coded?_control ⟨c.toNat, hc⟩
    rw [Char.ofNat_toNat c] at key
    simp only [List.cons_append, List.nil_append, basic?, key, Option.bind_some]
  · rename_i hmark hback hctl
    have hv : isVisible c = true := by
      simp only [isVisible, Bool.or_eq_true, Bool.and_eq_true, decide_eq_true_eq]
      omega
    simp [basic?, hmark, hback, hv]

/-- the inside of a basic string reads back as the text it was made of -/
theorem basic?_escape (s r : List Char) : basic? (escape s ++ '"' :: r) = some (s, r) := by
  induction s with
  | nil => rfl
  | cons c s ih =>
    rw [escape, List.flatMap_cons, List.append_assoc, basic?_escapeChar_append]
    rw [escape] at ih
    rw [ih]
    rfl

/-- the inside of a literal string, and what follows its mark -/
def literal? : List Char → Option (List Char × List Char)
  | [] => none
  | c :: r =>
    if c = '\'' then some ([], r)
    else if isVisible c then (literal? r).map (consTo c)
    else none

/-- what a basic string on several lines is in the middle of -/
inductive Fold where
  | text
  /-- after a backslash and blanks: the line must end -/
  | ending
  /-- after such a line: blanks and line ends do not count -/
  | skipping
  deriving Repr, DecidableEq

/-- the inside of a basic string on several lines, and what follows its marks; one or two marks
before the closing three belong to the string -/
def basicLines? : Fold → List Char → Option (List Char × List Char)
  | _, [] => none
  | .ending, '\r' :: '\n' :: r => basicLines? .skipping r
  | .ending, c :: r =>
    if c = '\n' then basicLines? .skipping r
    else if isBlank c then basicLines? .ending r
    else none
  | .skipping, '\r' :: '\n' :: r => basicLines? .skipping r
  | _, '"' :: '"' :: '"' :: '"' :: '"' :: r => some (['"', '"'], r)
  | _, '"' :: '"' :: '"' :: '"' :: r => some (['"'], r)
  | _, '"' :: '"' :: '"' :: r => some ([], r)
  | _, '\\' :: 'x' :: a :: b :: r =>
    (coded? [a, b]).bind fun c => (basicLines? .text r).map (consTo c)
  | _, '\\' :: 'u' :: a :: b :: c :: d :: r =>
    (coded? [a, b, c, d]).bind fun c => (basicLines? .text r).map (consTo c)
  | _, '\\' :: 'U' :: a :: b :: c :: d :: e :: f :: g :: h :: r =>
    (coded? [a, b, c, d, e, f, g, h]).bind fun c => (basicLines? .text r).map (consTo c)
  | _, '\\' :: '\r' :: '\n' :: r => basicLines? .skipping r
  | _, '\\' :: c :: r =>
    if c = '\n' then basicLines? .skipping r
    else if isBlank c then basicLines? .ending r
    else (shortEscape? c).bind fun c => (basicLines? .text r).map (consTo c)
  | _, '\r' :: '\n' :: r => (basicLines? .text r).map fun p => consTo '\r' (consTo '\n' p)
  | fold, c :: r =>
    if fold = .skipping ∧ (c = '\n' ∨ isBlank c = true) then basicLines? .skipping r
    else if c = '\\' ∨ (c ≠ '\n' ∧ isVisible c = false) then none
    else (basicLines? .text r).map (consTo c)

/-- the inside of a literal string on several lines, and what follows its marks -/
def literalLines? : List Char → Option (List Char × List Char)
  | [] => none
  | '\'' :: '\'' :: '\'' :: '\'' :: '\'' :: r => some (['\'', '\''], r)
  | '\'' :: '\'' :: '\'' :: '\'' :: r => some (['\''], r)
  | '\'' :: '\'' :: '\'' :: r => some ([], r)
  | '\r' :: '\n' :: r => (literalLines? r).map fun p => consTo '\r' (consTo '\n' p)
  | c :: r =>
    if c = '\n' ∨ isVisible c = true then (literalLines? r).map (consTo c) else none

/-- a text without the line end it begins with -/
def dropLineEnd (s : List Char) : List Char :=
  match s with
  | '\n' :: r => r
  | '\r' :: '\n' :: r => r
  | _ => s

/-- a string of any kind -/
def string? (s : List Char) : Option (List Char × List Char) :=
  match s with
  | '"' :: '"' :: '"' :: r => basicLines? .text (dropLineEnd r)
  | '\'' :: '\'' :: '\'' :: r => literalLines? (dropLineEnd r)
  | '"' :: r => basic? r
  | '\'' :: r => literal? r
  | _ => none

/-- the characters of words that need no quotation marks -/
def isBare (c : Char) : Bool := c.isAlphanum || c = '_' || c = '-'

/-- a bare word, or a string on one line -/
def key? (s : List Char) : Option (List Char × List Char) :=
  match s with
  | '"' :: r => basic? r
  | '\'' :: r => literal? r
  | _ => if s.takeWhile isBare = [] then none else some (s.takeWhile isBare, s.dropWhile isBare)

end TabShell.Toml

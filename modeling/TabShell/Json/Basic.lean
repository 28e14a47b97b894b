import TabShell.Text.Decimal
import TabShell.Text.Hexadecimal
/-!
# JSON values

Numbers and strings are kept as they are written; what they stand for is asked for separately.
So a document can hold a string whose escapes name half a surrogate pair, or a number of any size,
and only a reader who wants its value meets the difficulty.

* `Json`                 the values;
* `escape`, `unescape`   from a text to the inside of a string literal, and back;
* `Json.ofText`, `Json.text?`, `Json.ofNat`, `Json.nat?`   values and what they stand for.

`unescape_escape` says that an escaped text reads back as it was.
-/

namespace TabShell

/-- a value; the members of an object are in the order in which they are written -/
inductive Json where
  | null
  | bool (b : Bool)
  /-- a number as it is written -/
  | number (literal : List Char)
  /-- a string as it is written between its marks -/
  | string (literal : List Char)
  | array (items : List Json)
  | object (members : List (List Char × Json))
  deriving Repr, Inhabited

namespace Json

/-! ## escapes -/

/-- the number that four hexadecimal digits write -/
def hex4? (a b c d : Char) : Option Nat := Text.hexNumber? [a, b, c, d]

/-- the character of an escape of one letter -/
def shortEscape? (c : Char) : Option Char :=
  [('"', '"'), ('\\', '\\'), ('/', '/'), ('b', '\x08'), ('f', '\x0c'), ('n', '\n'), ('r', '\r'),
    ('t', '\t')].lookup c

/-- a mark, a backslash and the controls are escaped, all else stands for itself -/
def escapeChar (c : Char) : List Char :=
  if c = '"' then ['\\', '"']
  else if c = '\\' then ['\\', '\\']
  else if c = '\x08' then ['\\', 'b']
  else if c = '\x0c' then ['\\', 'f']
  else if c = '\n' then ['\\', 'n']
  else if c = '\r' then ['\\', 'r']
  else if c = '\t' then ['\\', 't']
  else if c.toNat < 0x20 then
    ['\\', 'u', '0', '0', Nat.digitChar (c.toNat / 16), Nat.digitChar (c.toNat % 16)]
  else [c]

/-- the inside of the string literal of a text -/
def escape (s : List Char) : List Char := s.flatMap escapeChar

theorem escape_cons (c : Char) (s : List Char) : escape (c :: s) = escapeChar c ++ escape s := rfl

/-- what one unit of a string literal stands for: a character or half a surrogate pair -/
inductive Piece where
  | char (c : Char)
  | half (n : Nat)
  deriving Repr, DecidableEq

/-- the unit of a number of sixteen bits -/
def Piece.ofCode (n : Nat) : Piece :=
  if 0xD800 ≤ n ∧ n ≤ 0xDFFF then .half n else .char (Char.ofNat n)

/-- the units of a string literal; none if an escape is malformed -/
def pieces : List Char → Option (List Piece)
  | [] => some []
  | '\\' :: 'u' :: a :: b :: c :: d :: r => do
    let n ← hex4? a b c d
    (pieces r).map (Piece.ofCode n :: ·)
  | '\\' :: c :: r => do
    let e ← shortEscape? c
    (pieces r).map (.char e :: ·)
  | c :: r => if c = '\\' then none else (pieces r).map (.char c :: ·)

/-- a high half and the low half that follows it make one character; no half stands alone -/
def joinHalves : List Piece → Option (List Char)
  | [] => some []
  | .char c :: r => (joinHalves r).map (c :: ·)
  | .half n :: .half m :: r =>
    if n ≤ 0xDBFF ∧ 0xDC00 ≤ m then
      (joinHalves r).map (Char.ofNat (0x10000 + (n - 0xD800) * 0x400 + (m - 0xDC00)) :: ·)
    else none
  | .half _ :: _ => none

/-- the text of a string literal -/
def unescape (l : List Char) : Option (List Char) := (pieces l).bind joinHalves

private theorem shortEscape?_u : shortEscape? 'u' = none := by decide

theorem pieces_short {c e : Char} (hc : shortEscape? c = some e) (r : List Char) :
    pieces ('\\' :: c :: r) = (pieces r).map (.char e :: ·) := by
  have hu : c ≠ 'u' := by
    rintro rfl
    exact absurd hc (show shortEscape? 'u' ≠ some e by rw [shortEscape?_u]; simp)
  rw [pieces.eq_3 _ _ (by rintro _ _ _ _ _ rfl; contradiction)]
  simp [hc]

theorem pieces_code {a b c d : Char} {n : Nat} (h : hex4? a b c d = some n) (r : List Char) :
    pieces ('\\' :: 'u' :: a :: b :: c :: d :: r) =
      (pieces r).map (Piece.ofCode n :: ·) := by
  simp [pieces, h]

theorem pieces_plain {c : Char} (hc : c ≠ '\\') (r : List Char) :
    pieces (c :: r) = (pieces r).map (.char c :: ·) := by
  simp [pieces, hc]

/-- an escaped character is one unit, whatever follows -/
theorem pieces_escapeChar (c : Char) (r : List Char) :
    pieces (escapeChar c ++ r) = (pieces r).map (.char c :: ·) := by
  unfold escapeChar
  iterate 7
    split
    · subst c
      exact pieces_short rfl r
  split
  · rename_i hc
    have key : ∀ n : Fin 0x20, hex4? '0' '0' (Nat.digitChar (n.val / 16))
        (Nat.digitChar (n.val % 16)) = some n.val := by decide
    have hp : Piece.ofCode c.toNat = .char c := by
      rw [Piece.ofCode, if_neg (by omega), Char.ofNat_toNat c]
    exact hp ▸ pieces_code (key ⟨c.toNat, hc⟩) r
  · exact pieces_plain (by assumption) r

theorem pieces_escape (s : List Char) : pieces (escape s) = some (s.map .char) := by
  induction s with
  | nil => rfl
  | cons c s ih => simp [escape_cons, pieces_escapeChar, ih]

/-- an escaped text reads back as it was -/
theorem unescape_escape (s : List Char) : unescape (escape s) = some s := by
  rw [unescape, pieces_escape]
  induction s with
  | nil => rfl
  | cons c s ih =>
    simp only [Option.bind_some] at ih ⊢
    simp [joinHalves, ih]

/-! ## values -/

/-- a string literal for a text -/
def ofText (s : String) : Json := .string (escape s.toList)

/-- the text of a string, if its escapes make one -/
def text? : Json → Option String
  | .string l => (unescape l).map String.ofList
  | _ => none

/-- a number in decimal -/
def ofNat (n : Nat) : Json := .number (Text.decimal n)

/-- the value of a number written with digits only -/
def nat? : Json → Option Nat
  | .number l => Text.digits? l
  | _ => none

theorem text?_ofText (s : String) : (ofText s).text? = some s := by
  simp [ofText, text?, unescape_escape, String.ofList_toList]

theorem nat?_ofNat (n : Nat) : (ofNat n).nat? = some n := Text.digits?_decimal n

end Json

end TabShell

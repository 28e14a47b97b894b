import TabShell.Json.Basic
/-!
# Reading JSON

A reader takes the value at the front of a text and gives it back with what is left.  Arrays and
objects may nest as deep as the text allows: every one of them takes a bracket, so the length of
the text is more nesting than it can hold.

* `Json.literal?`, `Json.numeral?`   the inside of a string, a number;
* `Json.value?`                      a value;
* `Json.read? s`                     the value that is the whole of `s`, blanks around it apart.
-/

namespace TabShell.Json

/-- the blanks between tokens -/
def isSpace (c : Char) : Bool := c = ' ' || c = '\n' || c = '\r' || c = '\t'

/-- a text without the blanks in front -/
def skip (s : List Char) : List Char := s.dropWhile isSpace

/-- the inside of a string, up to its closing mark; escapes must be well formed, but may name half
a surrogate pair -/
def literal? : List Char → Option (List Char × List Char)
  | [] => none
  | '\\' :: 'u' :: a :: b :: c :: d :: r =>
    if (hex4? a b c d).isSome then
      (literal? r).map fun p => ('\\' :: 'u' :: a :: b :: c :: d :: p.1, p.2)
    else none
  | '\\' :: c :: r =>
    if (shortEscape? c).isSome then (literal? r).map fun p => ('\\' :: c :: p.1, p.2) else none
  | c :: r =>
    if c = '"' then some ([], r)
    else if c = '\\' ∨ c.toNat < 0x20 then none
    else (literal? r).map fun p => (c :: p.1, p.2)

/-- the digits at the front of a text -/
def digits (s : List Char) : List Char × List Char :=
  (s.takeWhile Char.isDigit, s.dropWhile Char.isDigit)

/-- digits without leading zeros -/
def whole? (s : List Char) : Option (List Char × List Char) :=
  match s with
  | '0' :: r => some (['0'], r)
  | _ => if (digits s).1 = [] then none else some (digits s)

/-- a point and digits, if a point is there -/
def fraction? (s : List Char) : Option (List Char × List Char) :=
  match s with
  | '.' :: r => if (digits r).1 = [] then none else some ('.' :: (digits r).1, (digits r).2)
  | _ => some ([], s)

/-- a sign, if one is there -/
def sign (s : List Char) : List Char × List Char :=
  match s with
  | '+' :: r => (['+'], r)
  | '-' :: r => (['-'], r)
  | _ => ([], s)

/-- an exponent, if a letter announces one -/
def exponent? (s : List Char) : Option (List Char × List Char) :=
  match s with
  | c :: r =>
    if c = 'e' ∨ c = 'E' then
      let (g, r) := sign r
      if (digits r).1 = [] then none else some (c :: g ++ (digits r).1, (digits r).2)
    else some ([], s)
  | [] => some ([], [])

/-- a number -/
def numeral? (s : List Char) : Option (List Char × List Char) := do
  let (minus, s) := match s with
    | '-' :: r => (['-'], r)
    | _ => ([], s)
  let (w, s) ← whole? s
  let (f, s) ← fraction? s
  let (e, s) ← exponent? s
  pure (minus ++ w ++ f ++ e, s)

/-- items parted by commas, up to the closing bracket, which is taken too -/
def items? {α : Type} (close : Char) (item? : List Char → Option (α × List Char))
    (s : List Char) : Option (List α × List Char) :=
  match item? s with
  | none => none
  | some (a, r) =>
    match skip r with
    | ',' :: r =>
      if r.length < s.length then (items? close item? r).map fun p => (a :: p.1, p.2) else none
    | c :: r => if c = close then some ([a], r) else none
    | [] => none
  termination_by s.length

/-- items as in `items?`, or none of them -/
def bracketed? {α : Type} (close : Char) (item? : List Char → Option (α × List Char))
    (s : List Char) : Option (List α × List Char) :=
  match skip s with
  | c :: r => if c = close then some ([], r) else items? close item? (c :: r)
  | [] => none

/-- a key, a colon and a value -/
def member? (value? : List Char → Option (Json × List Char)) (s : List Char) :
    Option ((List Char × Json) × List Char) :=
  match skip s with
  | '"' :: r => do
    let (k, r) ← literal? r
    match skip r with
    | ':' :: r => (value? r).map fun p => ((k, p.1), p.2)
    | _ => none
  | _ => none

/-- the value at the front of a text, in at most `nesting` arrays and objects -/
def value? : (nesting : Nat) → List Char → Option (Json × List Char)
  | 0, _ => none
  | nesting + 1, s =>
    match skip s with
    | 'n' :: 'u' :: 'l' :: 'l' :: r => some (null, r)
    | 't' :: 'r' :: 'u' :: 'e' :: r => some (bool true, r)
    | 'f' :: 'a' :: 'l' :: 's' :: 'e' :: r => some (bool false, r)
    | '"' :: r => (literal? r).map fun p => (string p.1, p.2)
    | '[' :: r => (bracketed? ']' (value? nesting) r).map fun p => (array p.1, p.2)
    | '\x7b' :: r => (bracketed? '\x7d' (member? (value? nesting)) r).map fun p => (object p.1, p.2)
    | s => (numeral? s).map fun p => (number p.1, p.2)

/-- the value that is the whole of a text -/
def read? (s : List Char) : Option Json :=
  match value? (s.length + 1) s with
  | some (v, r) => if skip r = [] then some v else none
  | none => none

end TabShell.Json

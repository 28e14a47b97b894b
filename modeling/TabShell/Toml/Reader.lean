import TabShell.Toml.Quoted
import TabShell.Toml.Scalar
import TabShell.Toml.Table
/-!
# Reading TOML

A document is a list of statements, headers and entries, one a line; the entries before the first
header belong to the document itself, and the others each to the header above them.  Lines may end
anywhere inside brackets and braces, but not inside a dotted key.

* `voidAfter?`, `lineEnd?`   blanks and comments between tokens, and at the end of a line;
* `keyPath?`, `value?`       a dotted key, a value;
* `statements?`              the statements of a document;
* `read? s`                  the members of the document `s`.

Keys have at most `nestingLimit` names, and arrays and tables in braces nest no deeper than that.
-/

namespace TabShell.Toml

/-- how deep arrays and tables may nest -/
def nestingLimit : Nat := 80

/-- a text without the blanks in front -/
def skipBlanks (s : List Char) : List Char := s.dropWhile isBlank

/-- what follows blanks, line ends and comments; none if a comment holds a control -/
def voidAfter? : (inComment : Bool) → List Char → Option (List Char)
  | _, [] => some []
  | _, '\r' :: '\n' :: r => voidAfter? false r
  | true, c :: r =>
    if c = '\n' then voidAfter? false r
    else if isVisible c then voidAfter? true r
    else none
  | false, c :: r =>
    if c = '\n' ∨ isBlank c = true then voidAfter? false r
    else if c = '#' then voidAfter? true r
    else some (c :: r)

/-- what follows the line, which may hold blanks and a comment only -/
def lineEnd? : (inComment : Bool) → List Char → Option (List Char)
  | _, [] => some []
  | _, '\r' :: '\n' :: r => some r
  | true, c :: r =>
    if c = '\n' then some r else if isVisible c then lineEnd? true r else none
  | false, c :: r =>
    if c = '\n' then some r
    else if isBlank c then lineEnd? false r
    else if c = '#' then lineEnd? true r
    else none

/-- names parted by dots, blanks around them -/
def names? (s : List Char) : Option (List String × List Char) :=
  match key? (skipBlanks s) with
  | none => none
  | some (name, r) =>
    match skipBlanks r with
    | '.' :: r =>
      if r.length < s.length then
        (names? r).map fun p => (String.ofList name :: p.1, p.2)
      else none
    | r => some ([String.ofList name], r)
  termination_by s.length

/-- a dotted key of no more names than allowed -/
def keyPath? (s : List Char) : Option (KeyPath × List Char) := do
  let (names, r) ← names? s
  let last ← names.getLast?
  if names.length ≤ nestingLimit then some (⟨names.dropLast, last⟩, r) else none

/-- a key, an equals sign and a value, with such gaps around the sign as may be there -/
def keyValue? (gap? : List Char → Option (List Char))
    (value? : List Char → Option (Value × List Char)) (s : List Char) :
    Option ((KeyPath × Value) × List Char) := do
  let (path, r) ← keyPath? s
  match ← gap? r with
  | '=' :: r => (value? (← gap? r)).map fun p => ((path, p.1), p.2)
  | _ => none

/-- items parted by commas, up to the closing bracket, which is taken too; a comma may follow the
last of them -/
def items? {α : Type} (close : Char) (item? : List Char → Option (α × List Char))
    (s : List Char) : Option (List α × List Char) :=
  match voidAfter? false s with
  | none | some [] => none
  | some (c :: r) =>
    if c = close then some ([], r)
    else match item? (c :: r) with
      | none => none
      | some (a, r) =>
        match voidAfter? false r with
        | some (',' :: r) =>
          if r.length < s.length then (items? close item? r).map fun p => (a :: p.1, p.2)
          else none
        | some (c :: r) => if c = close then some ([a], r) else none
        | _ => none
  termination_by s.length

/-- a value that holds no others -/
def simpleValue? (s : List Char) : Option (Value × List Char) :=
  match s with
  | '"' :: _ | '\'' :: _ => (string? s).map fun p => (.text (String.ofList p.1), p.2)
  | _ => (scalar? (word s).1).map fun v => (v, (word s).2)

/-- a value, in which arrays and tables nest no deeper than given -/
def value? : (nesting : Nat) → List Char → Option (Value × List Char)
  | nesting + 1, '[' :: r =>
    (items? ']' (value? nesting) r).map fun p => (.array false p.1, p.2)
  | nesting + 1, '\x7b' :: r => do
    let (es, r) ← items? '\x7d' (keyValue? (voidAfter? false) (value? nesting)) r
    let ms ← addEntries .inline [] es
    pure (.table .inline ms, r)
  | _, s => simpleValue? s

/-- a header, or an entry -/
inductive Statement where
  /-- in double brackets if `ofTables` -/
  | header (ofTables : Bool) (path : KeyPath)
  | entry (path : KeyPath) (value : Value)
  deriving Repr

/-- a header or an entry -/
def statement? (s : List Char) : Option (Statement × List Char) :=
  match s with
  | '[' :: '[' :: r => do
    let (path, r) ← keyPath? r
    match r with
    | ']' :: ']' :: r => some (.header true path, r)
    | _ => none
  | '[' :: r => do
    let (path, r) ← keyPath? r
    match r with
    | ']' :: r => some (.header false path, r)
    | _ => none
  | _ =>
    (keyValue? (fun r => some (skipBlanks r)) (value? nestingLimit) s).map fun p =>
      (.entry p.1.1 p.1.2, p.2)

/-- the statements of a document, each with the rest of its line to itself -/
def statements? (s : List Char) : Option (List Statement) :=
  match voidAfter? false s with
  | none => none
  | some [] => some []
  | some (c :: r) =>
    match statement? (c :: r) with
    | none => none
    | some (statement, r) =>
      match lineEnd? false r with
      | none => none
      | some r =>
        if r.length < s.length then (statements? r).map (statement :: ·) else none
  termination_by s.length

/-- the entries up to the first header, and every header with the entries up to the next -/
def sections : List Statement →
    List (KeyPath × Value) × List ((Bool × KeyPath) × List (KeyPath × Value))
  | [] => ([], [])
  | .entry path value :: r => ((path, value) :: (sections r).1, (sections r).2)
  | .header ofTables path :: r => ([], ((ofTables, path), (sections r).1) :: (sections r).2)

/-- the members of a document -/
def build? (statements : List Statement) : Option Members := do
  let (es, rest) := sections statements
  let document ← addEntries .defined [] es
  rest.foldlM
    (fun ms h => if h.1.1 then openArray h.1.2 h.2 ms else openTable h.1.2 h.2 ms) document

/-- a text without the mark of its byte order -/
def dropByteOrderMark (s : List Char) : List Char :=
  match s with
  | '\uFEFF' :: r => r
  | _ => s

/-- the members of the document that a text is -/
def read? (s : List Char) : Option Members :=
  (statements? (dropByteOrderMark s)).bind build?

end TabShell.Toml

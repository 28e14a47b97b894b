import TabShell.Toml.Value
/-!
# Building tables

A key with dots, or a header, leads through tables to the one it is about; tables that are missing
on the way come to be.  What may be added to a table depends on how it came to be: nothing from
outside to one in braces, and with a dotted key only to one that dotted keys made.

* `KeyPath`              the names of a dotted key or of a header;
* `descend`              the table at the end of a path changed;
* `addEntry`             a key with its value added to a table;
* `openTable`, `openArray`   what a header makes of the document, given what to add there.
-/

namespace TabShell.Toml

/-- the names of a dotted key or of a header, the last apart -/
structure KeyPath where
  parents : List String
  last : String
  deriving Repr, DecidableEq

/-- a value under a key that is there -/
def replaceValue (key : String) (v : Value) (ms : Members) : Members :=
  ms.map fun m => if m.1 = key then (key, v) else m

/-- the table at the end of a path changed, those on the way made if need be; `dotted` if the path
is that of a dotted key and not of a header -/
def descend (dotted : Bool) (f : TableKind → Members → Option Members) :
    List String → TableKind → Members → Option Members
  | [], kind, ms => f kind ms
  | key :: path, _, ms =>
    match ms.lookup key with
    | none => do
      let kind := if dotted then TableKind.dotted else .implied
      let inner ← descend dotted f path kind []
      pure (ms ++ [(key, .table kind inner)])
    | some (.table kind inner) =>
      if kind = .inline ∨ (dotted = true ∧ kind = .defined) then none
      else do
        let inner ← descend dotted f path kind inner
        pure (replaceValue key (.table kind inner) ms)
    | some (.array true items) =>
      match items.getLast? with
      | some (.table kind inner) => do
        let inner ← descend dotted f path kind inner
        pure (replaceValue key (.array true (items.dropLast ++ [.table kind inner])) ms)
      | _ => none
    | some _ => none

/-- a key with its value added; the key must be new, and its table one that keys of its kind, with
dots or without, may add to -/
def addEntry (kind : TableKind) (ms : Members) (e : KeyPath × Value) : Option Members :=
  let dotted := decide (e.1.parents ≠ [])
  descend dotted
    (fun kind ms =>
      if decide (kind = .dotted) = dotted ∧ ms.lookup e.1.last = none then
        some (ms ++ [(e.1.last, e.2)])
      else none)
    e.1.parents kind ms

/-- entries added one after the other -/
def addEntries (kind : TableKind) (ms : Members) (es : List (KeyPath × Value)) : Option Members :=
  es.foldlM (addEntry kind) ms

/-- the entries below the header of a table, which may have been implied before, but no more -/
def openTable (path : KeyPath) (es : List (KeyPath × Value)) (document : Members) :
    Option Members :=
  descend false
    (fun _ ms =>
      match ms.lookup path.last with
      | none => do
        let inner ← addEntries .defined [] es
        pure (ms ++ [(path.last, .table .defined inner)])
      | some (.table .implied inner) => do
        let inner ← addEntries .defined inner es
        pure (replaceValue path.last (.table .defined inner) ms)
      | some _ => none)
    path.parents .defined document

/-- the entries below a header in double brackets, as a new item of the array of that name -/
def openArray (path : KeyPath) (es : List (KeyPath × Value)) (document : Members) :
    Option Members :=
  descend false
    (fun _ ms => do
      let inner ← addEntries .defined [] es
      match ms.lookup path.last with
      | none => pure (ms ++ [(path.last, .array true [.table .defined inner])])
      | some (.array true items) =>
        pure (replaceValue path.last (.array true (items ++ [.table .defined inner])) ms)
      | some _ => none)
    path.parents .defined document

end TabShell.Toml

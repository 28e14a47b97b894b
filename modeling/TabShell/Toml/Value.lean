/-!
# TOML values

Only what a reader of settings asks for is kept of a value: of a float whether a double can hold
it, of a date or a time nothing.  Digits that name no number make an integer all the same.

* `TableKind`   how a table came to be, which decides what may still be added to it;
* `Value`       the values.
-/

namespace TabShell.Toml

/-- how a table came to be -/
inductive TableKind where
  /-- a header names it, or it is the document -/
  | defined
  /-- a header names a table inside it -/
  | implied
  /-- a dotted key names a member of it -/
  | dotted
  /-- it is written in braces -/
  | inline
  deriving Repr, DecidableEq

/-- a value, so far as readers of settings ask -/
inductive Value where
  | text (s : String)
  /-- none if the digits name no number -/
  | integer (n : Option Int)
  | float (inRange : Bool)
  | bool (b : Bool)
  /-- a date, a time, or both -/
  | moment
  /-- `ofTables` if headers in double brackets add to it -/
  | array (ofTables : Bool) (items : List Value)
  | table (kind : TableKind) (members : List (String × Value))
  deriving Repr, Inhabited

/-- keys with values, in the order in which they were added -/
abbrev Members := List (String × Value)

end TabShell.Toml

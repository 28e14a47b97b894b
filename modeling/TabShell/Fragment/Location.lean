import TabShell.Fragment.Form
import TabShell.Fragment.Linker
/-!
# The location of a page and its history

The fragment of a page's address, with the fragments it had before.  Parameters live in the
fragment, so that a link to the page restores them.

* `Location`                  the current fragment and those below it;
* `Location.navigate`         a new fragment, pushed on the history or in place of the current one;
* `Location.get`, `Location.set`   a parameter read and written; writing keeps the parameters in
                              the order of their keys' bytes;
* `Location.edit`             the address typed by the user;
* `Location.move`, `Location.moves`   one change of either kind, and a list of them.

The lemmas say what navigation does to the history and to the fragment.
-/

namespace TabShell

open Text Fragment

/-- fragments are kept without the leading `#`; `past` is oldest first -/
structure Location where
  past : List String
  current : String
  deriving Repr, DecidableEq

/-- a text without one leading `#` -/
def stripHash (s : String) : String :=
  match s.toList with
  | '#' :: r => String.ofList r
  | _ => s

namespace Location

/-- a page opened without a fragment -/
def empty : Location := ⟨[], ""⟩

/-- a page opened at a fragment, with or without its `#` -/
def ofFragment (fragment : String) : Location := ⟨[], stripHash fragment⟩

/-- the fragment with its `#`, or nothing -/
def fragment (l : Location) : String := if l.current = "" then "" else "#" ++ l.current

/-- all fragments, oldest first -/
def history (l : Location) : List String := l.past ++ [l.current]

/-- the current fragment counts -/
def historyLength (l : Location) : Nat := l.past.length + 1

/-- the same fragment again adds nothing -/
def navigate (l : Location) (fragment : String) (replace : Bool) : Location :=
  if fragment = l.current then l
  else if replace then { l with current := fragment }
  else ⟨l.past ++ [l.current], fragment⟩

/-- the user types a fragment, which adds to the history -/
def edit (l : Location) (fragment : String) : Location := l.navigate (stripHash fragment) false

/-- the parameters that the current fragment holds, however badly it is written -/
def params (l : Location) : List Param := Param.decodeAll l.current.toList

/-- the first value under a key, empty if there is none -/
def get (l : Location) (key : String) : String :=
  ((l.params.find? (·.key = key)).map (·.value)).getD ""

/-- the order of the bytes of the keys -/
def keyLE (p q : Param) : Bool := decide (utf8 p.key.toList ≤ utf8 q.key.toList)

/-- a parameter given a value, or taken away when the value is the default -/
def update (ps : List Param) (w : Write) : List Param :=
  let others := ps.filter (·.key ≠ w.key)
  if w.value = w.default then others
  else (others ++ [Param.mk w.key w.value]).mergeSort keyLE

/-- the parameters with one of them written, as the new fragment -/
def set (l : Location) (w : Write) : Location :=
  l.navigate (String.ofList (Param.encodeAll (update l.params w))) w.replace

instance : DeepLinker Location := ⟨get, set, edit⟩

/-- what can change a location -/
inductive Move where
  | set (w : Write)
  | edit (fragment : String)
  deriving Repr, DecidableEq

/-- one change -/
def move (l : Location) : Move → Location
  | .set w => l.set w
  | .edit fragment => l.edit fragment

/-- changes one after the other -/
def moves (l : Location) (ms : List Move) : Location := ms.foldl move l

theorem length_history (l : Location) : l.history.length = l.historyLength := by
  simp [history, historyLength]

theorem current_navigate (l : Location) (f : String) (replace : Bool) :
    (l.navigate f replace).current = f := by
  unfold navigate
  split
  · simp [*]
  · split <;> rfl

theorem navigate_current (l : Location) (replace : Bool) : l.navigate l.current replace = l := by
  simp [navigate]

theorem history_navigate_push {l : Location} {f : String} (h : f ≠ l.current) :
    (l.navigate f false).history = l.history ++ [f] := by
  simp [navigate, history, h]

theorem history_navigate_replace (l : Location) (f : String) :
    (l.navigate f true).history = l.past ++ [f] := by
  unfold navigate history
  split <;> simp [*]

theorem history_navigate (l : Location) (f : String) :
    (l.navigate f false).history = l.history ++ if f = l.current then [] else [f] := by
  split
  · next h => rw [h, navigate_current, List.append_nil]
  · next h => exact history_navigate_push h

theorem current_edit (l : Location) (f : String) : (l.edit f).current = stripHash f :=
  current_navigate ..

theorem params_edit (l : Location) (f : String) : (l.edit f).params = (ofFragment f).params := by
  unfold params
  rw [current_edit]
  rfl

theorem current_set (l : Location) (w : Write) :
    (l.set w).current = String.ofList (Param.encodeAll (update l.params w)) :=
  current_navigate ..

theorem params_set (l : Location) (w : Write) : (l.set w).params = update l.params w := by
  simp [params, set, current_navigate, String.toList_ofList, Param.decodeAll_encodeAll]

theorem keyLE_total (p q : Param) : (keyLE p q || keyLE q p) = true := by
  simpa [keyLE] using List.le_total (utf8 p.key.toList) (utf8 q.key.toList)

theorem keyLE_trans (p q r : Param) (h : keyLE p q = true) (h' : keyLE q r = true) :
    keyLE p r = true := by
  simp only [keyLE, decide_eq_true_eq] at h h' ⊢
  exact List.le_trans h h'

end Location

end TabShell

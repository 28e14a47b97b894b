import TabShell.Fragment.Location
import TabShell.Proofs.Runs
/-!
# The history of a location

A change of a location takes the place of the current entry of the history, or adds one, or does
nothing, when the fragment is there already.  What is below the current entry only grows.

* `Location.pushes`      whether a change adds an entry;
* `history_move`         the history after one change;
* `past_moves`           what is below the current entry after a run: what the changes that added an
                         entry have left;
* `history_moves`        the discipline of the history, over all runs;
* `edit_fragment`        to type the fragment that is shown changes nothing.
-/

namespace TabShell

namespace Location

/-- whether a change asks for the place of the current entry -/
def Move.replaces : Move → Bool
  | .set w => w.replace
  | .edit _ => false

/-- whether a change adds an entry: it asks for one, and the fragment is another -/
def pushes (l : Location) (m : Move) : Bool :=
  !m.replaces && decide ((l.move m).current ≠ l.current)

/-! ## one change -/

theorem move_eq_navigate (l : Location) (m : Move) :
    l.move m = l.navigate (l.move m).current m.replaces := by
  cases m with
  | set w =>
    show l.set w = l.navigate (l.set w).current w.replace
    rw [current_set]
    rfl
  | edit f =>
    show l.edit f = l.navigate (l.edit f).current false
    rw [current_edit]
    rfl

theorem dropLast_history (l : Location) : l.history.dropLast = l.past := List.dropLast_concat

theorem history_move (l : Location) (m : Move) :
    (l.move m).history =
      if (l.move m).current = l.current then l.history
      else if m.replaces then l.past ++ [(l.move m).current]
      else l.history ++ [(l.move m).current] := by
  rw [move_eq_navigate, current_navigate]
  split
  · next hsame => rw [hsame, navigate_current]
  · next hnew =>
    cases m.replaces with
    | true => exact history_navigate_replace l _
    | false => exact history_navigate_push hnew

theorem past_move (l : Location) (m : Move) :
    (l.move m).past = l.past ++ if l.pushes m then [l.current] else [] := by
  have hhistory := congrArg List.dropLast (l.history_move m)
  rw [dropLast_history] at hhistory
  rw [hhistory]
  unfold pushes
  by_cases hsame : (l.move m).current = l.current
  · rw [if_pos hsame, dropLast_history]
    simp [hsame]
  · rw [if_neg hsame]
    cases m.replaces with
    | true => simp
    | false => simp [hsame, history]

/-! ## typing what is shown -/

theorem stripHash_fragment (l : Location) : stripHash l.fragment = l.current := by
  unfold fragment
  split
  · next hempty =>
    rw [hempty]
    rfl
  · have hhash : ("#" ++ l.current).toList = '#' :: l.current.toList := by
      rw [String.toList_append]
      rfl
    unfold stripHash
    rw [hhash]
    exact String.ofList_toList

theorem edit_fragment (l : Location) : l.edit l.fragment = l := by
  unfold edit
  rw [stripHash_fragment]
  exact l.navigate_current false

/-! ## runs -/

theorem past_moves (l : Location) (ms : List Move) :
    (l.moves ms).past =
      l.past ++ (met move l ms).flatMap fun x => if x.1.pushes x.2 then [x.1.current] else [] :=
  foldl_eq_met past_move l ms

theorem length_flatMap_pushes (xs : List (Location × Move)) :
    (xs.flatMap fun x => if x.1.pushes x.2 then [x.1.current] else []).length =
      xs.countP fun x => x.1.pushes x.2 := by
  induction xs with
  | nil => rfl
  | cons x xs ih =>
    rw [List.flatMap_cons, List.length_append, ih, List.countP_cons, Nat.add_comm]
    cases x.1.pushes x.2 <;> rfl

/-- **The discipline of the history.**  A page is opened without a fragment or at one, and changed
by any writes and edits.  Its history always has an entry.  A change that leads to the fragment that
is there changes no entry; any other change of the fragment takes the place of the last entry if it
asks for that, and adds one if it does not, as edits never do.  So what is below the last entry
stays there, and there is one entry more than there were changes that added one.  To type the
fragment that is shown, even if it is empty or has a `#` of its own, changes nothing. -/
theorem history_moves (opened : Option String) (ms : List Move) :
    let page := opened.elim empty ofFragment
    let l := page.moves ms
    l.history ≠ [] ∧
    (∀ m, (l.move m).history =
      if (l.move m).current = l.current then l.history
      else if m.replaces then l.history.dropLast ++ [(l.move m).current]
      else l.history ++ [(l.move m).current]) ∧
    (∀ f, (l.move (.edit f)).current = stripHash f) ∧
    (∀ more, l.history.dropLast <+: (l.moves more).history.dropLast) ∧
    l.historyLength = l.history.length ∧
    l.historyLength = 1 + (met move page ms).countP (fun x => x.1.pushes x.2) ∧
    l.move (.edit l.fragment) = l := by
  intro page l
  have hpage : page.past = [] := by cases opened <;> rfl
  refine ⟨List.concat_ne_nil _ _, fun m => ?_, l.current_edit, fun more => ?_,
    l.length_history.symm, ?_, l.edit_fragment⟩
  · rw [dropLast_history]
    exact l.history_move m
  · rw [dropLast_history, dropLast_history, past_moves l more]
    exact List.prefix_append _ _
  · show l.past.length + 1 = _
    rw [past_moves page ms, hpage, List.nil_append, length_flatMap_pushes, Nat.add_comm]

end Location

end TabShell

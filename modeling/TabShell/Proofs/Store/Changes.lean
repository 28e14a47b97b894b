import Mathlib.Data.List.Destutter
import TabShell.Proofs.Store.Views
/-!
# What there is to hear

A piece of a trace passes through states, and a subscriber is told of what it follows in them when
that changes.

* `statesFrom`   the states of a piece of a trace, from the state before it on;
* `changes`      values, with equal neighbours told once, and what one value more does to them.
-/

namespace TabShell

variable {V L : Type}

/-- the states of a piece of a trace: the one before it, and one after each action -/
def statesFrom (state : State) (d : List (Happening V)) : List State :=
  (processed d).scanl reduce state

theorem statesFrom_append (state : State) (d e : List (Happening V)) (he : processed e = []) :
    statesFrom state (d ++ e) = statesFrom state d := by
  unfold statesFrom
  rw [processed_append, he, List.append_nil]

theorem statesFrom_concat (state : State) (d e : List (Happening V)) (a : Action)
    (he : processed e = [a]) :
    statesFrom state (d ++ e) =
      statesFrom state d ++ [reduce ((processed d).foldl reduce state) a] := by
  unfold statesFrom
  rw [processed_append, he, List.scanl_append]
  rfl

theorem getLast?_statesFrom (state : State) (d : List (Happening V)) :
    (statesFrom state d).getLast? = some ((processed d).foldl reduce state) :=
  List.getLast?_scanl

variable [DecidableEq V]

/-- values with equal neighbours told once -/
def changes (vs : List V) : List V := vs.destutter (· ≠ ·)

theorem isChain_changes (vs : List V) : (changes vs).IsChain (· ≠ ·) :=
  List.isChain_destutter (· ≠ ·) vs

theorem destutter'_concat (a v : V) (vs : List V) :
    (vs ++ [v]).destutter' (· ≠ ·) a =
      if (a :: vs).getLast? = some v then vs.destutter' (· ≠ ·) a
      else vs.destutter' (· ≠ ·) a ++ [v] := by
  induction vs generalizing a with
  | nil => by_cases h : a = v <;> simp [h]
  | cons b vs ih =>
    have hlast : (a :: b :: vs).getLast? = (b :: vs).getLast? := List.getLast?_cons_cons
    by_cases hab : a = b
    · subst hab
      rw [List.cons_append, List.destutter'_cons_neg (a := a) (b := a) _ (by simp),
        List.destutter'_cons_neg (a := a) (b := a) _ (by simp), hlast]
      exact ih a
    · rw [List.cons_append, List.destutter'_cons_pos (a := b) (b := a) _ hab,
        List.destutter'_cons_pos (a := b) (b := a) _ hab, hlast, ih b]
      split <;> rfl

/-- the last value again is no change -/
theorem changes_concat_of_eq {vs : List V} {v : V} (h : vs.getLast? = some v) :
    changes (vs ++ [v]) = changes vs := by
  cases vs with
  | nil => cases h
  | cons a vs =>
    show (vs ++ [v]).destutter' (· ≠ ·) a = vs.destutter' (· ≠ ·) a
    rw [destutter'_concat, if_pos h]

/-- another value is a change -/
theorem changes_concat_of_ne {vs : List V} {v w : V} (h : vs.getLast? = some w) (hne : v ≠ w) :
    changes (vs ++ [v]) = changes vs ++ [v] := by
  cases vs with
  | nil => cases h
  | cons a vs =>
    show (vs ++ [v]).destutter' (· ≠ ·) a = vs.destutter' (· ≠ ·) a ++ [v]
    rw [destutter'_concat, if_neg]
    intro hv
    exact hne (Option.some.inj (hv.symm.trans h))

theorem getLast?_changes (vs : List V) : (changes vs).getLast? = vs.getLast? := by
  induction vs using List.reverseRecOn with
  | nil => rfl
  | append_singleton vs v ih =>
    cases hlast : vs.getLast? with
    | none =>
      rw [List.getLast?_eq_none_iff] at hlast
      subst hlast
      rfl
    | some w =>
      by_cases hv : v = w
      · subst hv
        rw [changes_concat_of_eq hlast, ih, hlast, List.getLast?_concat]
      · rw [changes_concat_of_ne hlast hv, List.getLast?_concat, List.getLast?_concat]

end TabShell

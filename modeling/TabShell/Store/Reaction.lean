import TabShell.Action
/-!
# Reactions

What a subscription does when it hears a value may depend on all that it has heard before.  It has
bounds: a reaction does something only so many times, and queues only so many actions each time.
Without bounds two subscriptions could keep a call busy for ever; in a call that ends, bounds that
are large enough change nothing.

* `Deed`               one thing to do;
* `Reaction`           what is done, and its bounds;
* `Reaction.script`    a reaction that does the same each time;
* `Reaction.deedsAt`, `Reaction.spend`   what is done at a value, and what is left of the reaction
                       afterwards;
* `budget_spend_all`   what is done is taken off what reactions can still queue.
-/

namespace TabShell

/-- the costs of all items together -/
def total {α : Type} (cost : α → Nat) : List α → Nat
  | [] => 0
  | a :: as => cost a + total cost as

theorem total_cons {α : Type} (cost : α → Nat) (a : α) (as : List α) :
    total cost (a :: as) = cost a + total cost as := rfl

theorem total_append {α : Type} (cost : α → Nat) (as bs : List α) :
    total cost (as ++ bs) = total cost as + total cost bs := by
  induction as with
  | nil => exact (Nat.zero_add _).symm
  | cons a as ih => rw [List.cons_append, total_cons, total_cons, ih, Nat.add_assoc]

theorem total_map_eq {α β : Type} {cost : β → Nat} {f : α → β} {n : Nat}
    (h : ∀ a, cost (f a) = n) (as : List α) : total cost (as.map f) = as.length * n := by
  induction as with
  | nil => exact (Nat.zero_mul n).symm
  | cons a as ih =>
    rw [List.map_cons, total_cons, h, ih, List.length_cons, Nat.succ_mul, Nat.add_comm]

/-! ## deeds -/

/-- one thing that a subscription can do when it hears a value -/
inductive Deed where
  /-- an action waits its turn from now on -/
  | queue (a : Action)
  | unsubscribe (label : String)
  | linkChanged (label : String)
  | unmount (label : String)
  deriving Repr, DecidableEq

namespace Deed

/-- how many actions a deed can queue -/
def cost : Deed → Nat
  | queue _ | linkChanged _ => 1
  | unsubscribe _ | unmount _ => 0

/-- actions queued, subscriptions dropped, mounts told to report their link, mounts dropped -/
def script (actions : List Action) (unsubscribed reporting unmounted : List String) : List Deed :=
  actions.map queue ++ unsubscribed.map unsubscribe ++ reporting.map linkChanged ++
    unmounted.map unmount

theorem total_script (actions : List Action) (unsubscribed reporting unmounted : List String) :
    total cost (script actions unsubscribed reporting unmounted) =
      actions.length + reporting.length := by
  have hqueue : ∀ a, cost (queue a) = 1 := fun _ => rfl
  have hunsubscribe : ∀ label, cost (unsubscribe label) = 0 := fun _ => rfl
  have hreport : ∀ label, cost (linkChanged label) = 1 := fun _ => rfl
  have hunmount : ∀ label, cost (unmount label) = 0 := fun _ => rfl
  rw [script, total_append, total_append, total_append, total_map_eq hqueue,
    total_map_eq hunsubscribe, total_map_eq hreport, total_map_eq hunmount]
  omega

end Deed

/-! ## reactions -/

/-- what a subscription does when it hears a value: what `deeds` makes of all the values that it has
heard, the newest one last.  It does something only so many times more, and never queues more than
so many actions at once -/
structure Reaction (V : Type) where
  runs : Nat
  cost : Nat
  /-- the values heard so far -/
  history : List V
  deeds : List V → List Deed
  bounded : ∀ vs, total Deed.cost (deeds vs) ≤ cost

namespace Reaction

variable {V : Type}

/-- the same deeds each time, and only at one value if `only` names it -/
def script [DecidableEq V] (only : Option V) (runs : Nat) (actions : List Action)
    (unsubscribed reporting unmounted : List String) : Reaction V where
  runs
  cost := actions.length + reporting.length
  history := []
  deeds vs :=
    if only.all fun w => decide (vs.getLast? = some w) then
      Deed.script actions unsubscribed reporting unmounted
    else []
  bounded vs := by
    split
    · exact Nat.le_of_eq (Deed.total_script ..)
    · exact Nat.zero_le _

/-- what a reaction does at a value -/
def deedsAt (v : V) (r : Reaction V) : List Deed :=
  if r.runs = 0 then [] else r.deeds (r.history ++ [v])

/-- a reaction after a value was heard -/
def spend (v : V) (r : Reaction V) : Reaction V :=
  { r with
    history := r.history ++ [v]
    runs := if r.deedsAt v = [] then r.runs else r.runs - 1 }

/-- how many actions all runs that are left can queue -/
def budget (r : Reaction V) : Nat := r.runs * r.cost

/-- what runs now and what is left to run are no more than there was -/
theorem budget_spend (v : V) (r : Reaction V) :
    (r.spend v).budget + total Deed.cost (r.deedsAt v) ≤ r.budget := by
  have hspend : (r.spend v).budget = (if r.deedsAt v = [] then r.runs else r.runs - 1) * r.cost :=
    rfl
  rw [hspend]
  by_cases hidle : r.deedsAt v = []
  · rw [if_pos hidle, hidle]
    exact Nat.le_refl _
  · have hruns : r.runs ≠ 0 := fun h => hidle (if_pos h)
    have hcost : total Deed.cost (r.deedsAt v) ≤ r.cost := by
      unfold deedsAt
      rw [if_neg hruns]
      exact r.bounded _
    obtain ⟨n, hn⟩ := Nat.exists_eq_succ_of_ne_zero hruns
    rw [if_neg hidle, budget, hn, Nat.succ_sub_one, Nat.succ_mul]
    exact Nat.add_le_add_left hcost _

theorem budget_spend_all (v : V) (rs : List (Reaction V)) :
    total budget (rs.map (spend v)) + total Deed.cost (rs.flatMap (deedsAt v)) ≤
      total budget rs := by
  induction rs with
  | nil => exact Nat.le_refl _
  | cons r rs ih =>
    have hr := budget_spend v r
    rw [List.map_cons, List.flatMap_cons, total_append, total_cons, total_cons]
    omega

/-- something is done when a value is heard for the second time, and only once -/
example :
    let r : Reaction Nat :=
      ⟨1, 1, [], fun vs => if 2 ≤ vs.count 7 then [.queue .coreLoaded] else [], fun vs => by
        split <;> decide⟩
    let s := r.spend 7
    r.deedsAt 7 = [] ∧ s.deedsAt 8 = [] ∧ s.deedsAt 7 = [.queue .coreLoaded] ∧
      (s.spend 7).deedsAt 7 = [] := by
  decide

end Reaction

end TabShell

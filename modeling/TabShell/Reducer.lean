import TabShell.State
import TabShell.Action
/-!
# How actions change the state

* `Core.reduce`, `reduceRoute`   the two halves of the state, each changed by its own actions;
* `reduce`                       the whole.

The lemmas below say what an action leaves alone.
-/

namespace TabShell

/-- the choice a plugin's name stands for; the empty name stands for none -/
def choiceOf (plugin : String) : Option String :=
  if plugin = "" then none else some plugin

/-- a listing chooses its first plugin unless one is chosen already -/
def Core.reduce (c : Core) : Action → Core
  | .coreLoaded => { c with loaded := true }
  | .listingRequested => { c with listing := .loading }
  | .listingLoaded plugins =>
    { c with plugins, listing := .loaded, chosen := c.chosen <|> plugins.head? }
  | .listingFailed => { c with listing := .failed }
  | .pluginChanged plugin => { c with chosen := choiceOf plugin }
  | .linkedPluginChanged plugin => { c with chosen := choiceOf plugin }
  | .reloadPeriodChanged period => if period = 0 then c else { c with reloadPeriod := period }
  | .reloadToggled => { c with reloadEnabled := !c.reloadEnabled }
  | .navigated _ | .routeCleared | .nothing => c

/-- navigation sets the route, and only clearing unsets it -/
def reduceRoute (route : Option String) : Action → Option String
  | .navigated path => some path
  | .routeCleared => none
  | _ => route

/-- the state after an action, half by half -/
def reduce (s : State) (a : Action) : State :=
  ⟨s.core.reduce a, reduceRoute s.route a⟩

theorem choiceOf_ne_some_empty (plugin : String) : choiceOf plugin ≠ some "" := by
  unfold choiceOf
  split <;> simp_all

theorem reduceRoute_not_isRoute (r : Option String) {a : Action} (h : a.isRoute = false) :
    reduceRoute r a = r := by
  cases a <;> simp_all [Action.isRoute, reduceRoute]

theorem Core.reduce_reloadPeriod_pos {c : Core} (h : 0 < c.reloadPeriod) (a : Action) :
    0 < (c.reduce a).reloadPeriod := by
  cases a with
  | reloadPeriodChanged period =>
    by_cases hp : period = 0
    · simpa [Core.reduce, hp] using h
    · simpa [Core.reduce, hp] using UInt64.pos_iff_ne_zero.2 hp
  | _ => exact h

end TabShell

/-!
# The state of the shell

A dashboard is a row of plugins, one of them active at a time.  Its shell keeps what all plugins
share: which are listed, which is active, whether and how often data reloads, and the route the
page is at.

* `Listing`   how far the request for the list of plugins has got;
* `Core`      the part of the state that is not about the route;
* `State`     the whole;
* `State.activePlugin?`, `State.routeReady`   what other parts of the shell read off it.
-/

namespace TabShell

/-- how far the request for the list of plugins has got -/
inductive Listing where
  | notLoaded
  | loading
  | loaded
  | failed
  deriving Repr, DecidableEq, Inhabited

/-- plugins and reloading; `chosen` may hold the empty text, which counts as no plugin -/
structure Core where
  chosen : Option String
  plugins : List String
  listing : Listing
  loaded : Bool
  reloadEnabled : Bool
  reloadPeriod : UInt64
  deriving Repr, DecidableEq

/-- the core and the path of the active route -/
structure State where
  core : Core
  route : Option String
  deriving Repr, DecidableEq

/-- milliseconds between two reloads unless told otherwise -/
def defaultReloadPeriod : UInt64 := 30000

/-- nothing listed, nothing chosen, no route -/
def State.initial : State where
  core := ⟨none, [], .notLoaded, false, false, defaultReloadPeriod⟩
  route := none

/-- the initial state with a given period; zero is no period and leaves the default -/
def State.withReloadPeriod (period : UInt64) : State :=
  if period = 0 then State.initial
  else { State.initial with core := { State.initial.core with reloadPeriod := period } }

/-- the active plugin, if any -/
def State.activePlugin? (s : State) : Option String :=
  s.core.chosen.filter (· ≠ "")

/-- whether the page is at a route -/
def State.routeReady (s : State) : Bool := s.route.isSome

/-- the active plugin, the empty text when there is none -/
def State.selection (s : State) : String := s.activePlugin?.getD ""

theorem State.activePlugin?_eq_some {s : State} {p : String} :
    s.activePlugin? = some p ↔ s.core.chosen = some p ∧ p ≠ "" := by
  simp [activePlugin?, Option.filter_eq_some_iff]

theorem State.withReloadPeriod_pos (period : UInt64) :
    0 < (State.withReloadPeriod period).core.reloadPeriod := by
  unfold withReloadPeriod
  split
  · decide
  · exact UInt64.pos_iff_ne_zero.2 (by assumption)

end TabShell

import TabShell.State
/-!
# Projections of the state

Parts of the state that a subscriber may follow, and the values they take.

* `Projection`, `Projection.value`   the parts, and what each is in a state;
* `Projection.Value`                 the values, with an equality that can be decided;
* `KeyProjection`                    the parts that analytics may follow, texts that may be missing.
-/

namespace TabShell

/-- what a part of the state can be -/
inductive Projection.Value where
  | text (t : Option String)
  | flag (b : Bool)
  | texts (ts : List String)
  | listing (l : Listing)
  | reload (enabled : Bool) (period : UInt64)
  | zero
  | state (s : State)
  deriving Repr, DecidableEq

/-- a part of the state that can be followed -/
inductive Projection where
  | activePlugin
  | chosen
  | route
  | routeReady
  | plugins
  | listing
  | reload
  | loaded
  | constant
  | state
  deriving Repr, DecidableEq

/-- what a part is in a state -/
def Projection.value : Projection → State → Projection.Value
  | activePlugin, s => .text s.activePlugin?
  | chosen, s => .text s.core.chosen
  | route, s => .text s.route
  | routeReady, s => .flag s.routeReady
  | plugins, s => .texts s.core.plugins
  | listing, s => .listing s.core.listing
  | reload, s => .reload s.core.reloadEnabled s.core.reloadPeriod
  | loaded, s => .flag s.core.loaded
  | constant, _ => .zero
  | state, s => .state s

/-- a part of the state whose changes are page views -/
inductive KeyProjection where
  | activePlugin
  | chosen
  | route
  | firstPlugin
  | reloadPeriod
  deriving Repr, DecidableEq

/-- the page that a part names in a state, if it names one -/
def KeyProjection.value : KeyProjection → State → Option String
  | activePlugin, s => s.activePlugin?
  | chosen, s => s.core.chosen
  | route, s => s.route
  | firstPlugin, s => s.core.plugins.head?
  | reloadPeriod, s => some (toString s.core.reloadPeriod.toNat)

end TabShell

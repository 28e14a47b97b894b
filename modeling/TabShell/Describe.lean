import TabShell.State
import TabShell.Action
import TabShell.Text.Quoted
/-!
# Actions and states on one line

The form in which the log shows them: a constructor's name, and its fields in braces.

* `State.describe`, `Action.describe`.
-/

namespace TabShell

open Text

/-- a name and its fields in braces -/
def record (name : String) (fields : List (String × String)) : String :=
  name ++ " \x7b " ++ ", ".intercalate (fields.map fun f => f.1 ++ ": " ++ f.2) ++ " \x7d"

/-- a value that may be missing -/
def describeOption (v : Option String) : String :=
  match v with
  | some t => "Some(" ++ t ++ ")"
  | none => "None"

/-- a boolean in lower case -/
def describeBool (b : Bool) : String := if b then "true" else "false"

/-- the name of a state of the listing -/
def Listing.name : Listing → String
  | notLoaded => "NotLoaded"
  | loading => "Loading"
  | loaded => "Loaded"
  | failed => "Failed"

/-- a route by its path -/
def describeRoute (path : String) : String := record "Route" [("path", quoted path)]

/-- all fields in order -/
def Core.describe (c : Core) : String :=
  record "CoreState"
    [("active_plugin", describeOption (c.chosen.map quoted)),
     ("plugins", quotedList c.plugins),
     ("plugins_list_loaded", c.listing.name),
     ("core_loaded", describeBool c.loaded),
     ("reload_enabled", describeBool c.reloadEnabled),
     ("reload_period_ms", toString c.reloadPeriod.toNat)]

/-- the core, then the route -/
def State.describe (s : State) : String :=
  record "AppState"
    [("core", s.core.describe),
     ("route", record "RouteState" [("active_route", describeOption (s.route.map describeRoute))])]

/-- the half of the state that the action is about, and the action in it -/
def Action.describe : Action → String
  | coreLoaded => "Core(CoreLoaded)"
  | listingRequested => "Core(PluginsListingRequested)"
  | listingLoaded plugins =>
    "Core(" ++ record "PluginsListingLoaded" [("plugins", quotedList plugins)] ++ ")"
  | listingFailed => "Core(PluginsListingFailed)"
  | pluginChanged plugin => "Core(" ++ record "PluginChanged" [("plugin", quoted plugin)] ++ ")"
  | linkedPluginChanged plugin =>
    "Core(" ++ record "PluginUrlHashChanged" [("plugin", quoted plugin)] ++ ")"
  | reloadPeriodChanged period =>
    "Core(" ++ record "ReloadPeriodChanged" [("period_ms", toString period.toNat)] ++ ")"
  | reloadToggled => "Core(ReloadEnabledToggled)"
  | navigated path => "Route(" ++ record "Navigated" [("route", describeRoute path)] ++ ")"
  | routeCleared => "Route(Cleared)"
  | nothing => "None"

end TabShell

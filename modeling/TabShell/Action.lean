/-!
# Actions

What can happen to the state of the shell.

* `Action`        one occurrence;
* `Action.kind`   the name under which it is logged and reported.
-/

namespace TabShell

/-- one occurrence that may change the state -/
inductive Action where
  /-- the core has finished loading -/
  | coreLoaded
  | listingRequested
  | listingLoaded (plugins : List String)
  | listingFailed
  /-- the user picked a plugin; the empty text unsets it -/
  | pluginChanged (plugin : String)
  /-- the fragment of the page's address names another plugin -/
  | linkedPluginChanged (plugin : String)
  | reloadPeriodChanged (period : UInt64)
  | reloadToggled
  | navigated (path : String)
  | routeCleared
  | nothing
  deriving Repr, DecidableEq

/-- the name of an action without what it carries -/
def Action.kind : Action → String
  | coreLoaded => "[Core] Loaded"
  | listingRequested => "[Core] Plugin Listing Requested"
  | listingLoaded _ => "[Core] Plugin Listing Loaded"
  | listingFailed => "[Core] Plugin Listing Failed"
  | pluginChanged _ => "[Core] Plugin Changed"
  | linkedPluginChanged _ => "[Core] Plugin Url Hash Changed"
  | reloadPeriodChanged _ => "[Core] Reload Period Changed"
  | reloadToggled => "[Core] Reload Enabled Toggled"
  | navigated _ => "[Route] Navigated"
  | routeCleared => "[Route] Cleared"
  | nothing => "None"

/-- whether an action is about the route; it then leaves the core alone -/
def Action.isRoute : Action → Bool
  | navigated _ | routeCleared => true
  | _ => false

end TabShell

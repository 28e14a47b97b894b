import TabShell.Command
import TabShell.Config.Basic
import TabShell.Fragment.Location
import TabShell.State.Document
import TabShell.Store.Run
/-!
# Sessions

A session is a store with one subscriber, the synchronizer of the page's address, and commands are
what its user does.

* `Session`, `Session.start`   the store of a configuration;
* `Session.apply`              one command: the session after it, what it prints, and whether the
                               session goes on;
* `Session.location`, `Session.phase`   what there is to see besides the state.
-/

namespace TabShell

/-- no subscriber of a session but its mount -/
abbrev Session := Store Empty Location

namespace Session

/-- the label of the mount -/
def address : String := "address"

/-- the store of a configuration, the address mounted at an empty page -/
def start (c : Config) : Session :=
  let observers := c.deployment.observers
  let store : Session := .new (State.withReloadPeriod c.reloadPeriod) observers
  (store.note (registrations observers)).mount address
    (.new Location.empty c.pluginKey c.defaultValue)

/-- the page's address; without a mount, that of an empty page -/
def location (s : Session) : Location :=
  ((s.mounted? address).map (·.linker)).getD Location.empty

/-- how far the address is in step -/
def phase (s : Session) : Phase := ((s.mounted? address).map (·.phase)).getD .waitingForRoute

/-- a session after a command, what the command printed, and whether more commands are heard -/
structure Outcome where
  session : Session
  out : String
  goesOn : Bool

/-- the action that a command dispatches, if it does that -/
def action? : Command → Option Action
  | .ready => some .coreLoaded
  | .plugins ids => some (.listingLoaded ids)
  | .select plugin => some (.pluginChanged (plugin.getD ""))
  | .route path => some (.navigated path)
  | .unroute => some .routeCleared
  | .reload period => some (.reloadPeriodChanged period)
  | .toggleReload => some .reloadToggled
  | _ => none

/-- the fragment and the length of the history, on a line -/
def locationLine (l : Location) : String :=
  "location: " ++ l.fragment ++ " (history: " ++ toString l.historyLength ++ ")\n"

/-- the session after a command -/
def after (s : Session) (c : Command) : Session :=
  match c with
  | .hash fragment => ((s.edit address fragment).linkChanged address).drain
  | c => match action? c with
    | some a => s.dispatch a
    | none => s

/-- what a command prints -/
def printed (s : Session) : Command → String
  | .state => s.state.dump ++ "\n"
  | .location => locationLine s.location
  | _ => ""

/-- one command heard -/
def apply (s : Session) (c : Command) : Outcome :=
  ⟨s.after c, s.printed c, decide (c ≠ .quit)⟩

end Session

end TabShell

import TabShell.Action
import TabShell.Command
import TabShell.Describe
import TabShell.Event
import TabShell.Files
/-!
# The log

Everything the shell logs is one of the entries below.  An entry has a level and a message, and
the level alone decides whether a log shows it.

* `LogEntry`   what can be logged;
* `LogEntry.level`, `LogEntry.message`, `LogEntry.text`;
* `Verbosity`  the least urgent level a log shows, or none at all.
-/

namespace TabShell

/-- how urgent an entry is -/
inductive Level where
  | error
  | warn
  | info
  | debug
  deriving Repr, DecidableEq

/-- the name of a level in the log -/
def Level.name : Level → String
  | error => "ERROR"
  | warn => "WARN"
  | info => "INFO"
  | debug => "DEBUG"

/-- a higher rank is less urgent -/
def Level.rank : Level → Nat
  | error => 1
  | warn => 2
  | info => 3
  | debug => 4

/-- what a directory is for -/
inductive Purpose where
  | config
  | cache
  deriving Repr, DecidableEq

/-- the name of a purpose in messages -/
def Purpose.name : Purpose → String
  | config => "config"
  | cache => "cache"

/-- why there is no directory for a purpose -/
inductive LocationError where
  | undetermined (purpose : Purpose)
  | notCreated (purpose : Purpose) (path : String) (cause : Obstacle)
  deriving Repr, DecidableEq

/-- what went wrong, without its cause -/
def LocationError.message : LocationError → String
  | undetermined purpose => "Could not determine " ++ purpose.name ++ " directory"
  | notCreated purpose path _ =>
    "Failed to create " ++ purpose.name ++ " directory: " ++ Text.quoted path

/-- what went wrong, and its cause -/
def LocationError.fullMessage (e : LocationError) : String :=
  match e with
  | undetermined _ => e.message
  | notCreated _ _ cause => e.message ++ ": " ++ cause.message

/-- what can be logged -/
inductive LogEntry where
  /-- a period of zero was asked for -/
  | periodIgnored
  | observerRegistered (name : String)
  /-- analytics may send from here on -/
  | analyticsReady
  | actionKind (a : Action)
  | previousState (s : State)
  | action (a : Action)
  | nextState (s : State)
  | sentPageView (pagePath payload : String)
  | sentGeneric (payload : String)
  /-- an event was not taken -/
  | dropped (event : Event) (cause : SendError)
  /-- an action was sent to a store that is gone -/
  | channelClosed
  | syncStarted
  | syncWrote (plugin : String) (replace : Bool)
  | linkChanged (plugin : String)
  | lineSkipped (number : Nat) (cause : CommandError)
  | configFound (path : String)
  | configAccepted
  | configRejected
  | configDefaulted
  | noConfigLocation (cause : LocationError)
  | telemetryDisabled
  | starting
  | exiting
  deriving Repr, DecidableEq

namespace LogEntry

/-- how urgent an entry is -/
def level : LogEntry → Level
  | channelClosed => .error
  | dropped _ _ | lineSkipped _ _ | configRejected => .warn
  | sentPageView _ _ | sentGeneric _ | configAccepted | telemetryDisabled | starting | exiting =>
    .info
  | _ => .debug

/-- a path without the slashes at its end -/
def trimSlashes (path : String) : String :=
  String.ofList (path.toList.reverse.dropWhile (· = '/')).reverse

/-- the words of an entry -/
def message : LogEntry → String
  | periodIgnored => "Ignoring non-positive reload period"
  | observerRegistered name => "Registering meta-reducer: " ++ name
  | analyticsReady => "Analytics: core loaded, events enabled"
  | actionKind a => a.kind
  | previousState s => "  prev state: " ++ s.describe
  | action a => "  action: " ++ a.describe
  | nextState s => "  next state: " ++ s.describe
  | sentPageView pagePath payload =>
    "Telemetry: send page view: " ++ trimSlashes pagePath ++ "/" ++ payload
  | sentGeneric payload => "Telemetry: send generic event: " ++ payload
  | dropped event cause =>
    "Telemetry: dropped " ++ event.category.name ++ " event " ++ Text.quoted event.payload ++
      ": " ++ cause.message
  | channelClosed => "Dispatcher: failed to send action: sending on a closed channel"
  | syncStarted => "HashStorage: route ready, starting fragment sync"
  | syncWrote plugin replace =>
    "HashStorage: writing plugin " ++ Text.quoted plugin ++
      " (replace: " ++ describeBool replace ++ ")"
  | linkChanged plugin => "HashStorage: fragment changed, plugin " ++ Text.quoted plugin
  | lineSkipped number cause =>
    "Skipping line " ++ toString number ++ ": " ++ cause.message
  | configFound path => "Loaded config from " ++ path
  | configAccepted => "Loaded app config from file"
  | configRejected => "Failed to parse config file"
  | configDefaulted => "Using default app config"
  | noConfigLocation cause => "No global config location: " ++ cause.fullMessage
  | telemetryDisabled => "Telemetry disabled"
  | starting => "Starting tb-dashboard"
  | exiting => "Exiting tb-dashboard"

/-- level and message -/
def text (e : LogEntry) : String := "[" ++ e.level.name ++ "] " ++ e.message

end LogEntry

/-- the least urgent level that a log shows; none shows nothing -/
abbrev Verbosity := Option Level

/-- an entry is shown if it is no less urgent than asked for -/
def Verbosity.shows (v : Verbosity) (e : LogEntry) : Bool :=
  match v with
  | none => false
  | some l => decide (e.level.rank ≤ l.rank)

/-- ASCII letters in lower case -/
def lowerAscii (s : String) : String := String.ofList (s.toList.map Char.toLower)

/-- the verbosity of a setting; any case of the ASCII letters will do, a word that is no level
means `info`, and no setting at all means `debug` -/
def Verbosity.ofSetting : Option String → Verbosity
  | none => some .debug
  | some word =>
    match lowerAscii word with
    | "error" => some .error
    | "warn" => some .warn
    | "info" => some .info
    | "debug" => some .debug
    | "trace" => some .debug
    | "off" => none
    | _ => some .info

end TabShell

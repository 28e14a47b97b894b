/-!
# Telemetry events

* `Event`       what is sent: a category and a payload;
* `SendError`   why a backend may not take it.
-/

namespace TabShell

/-- what kind of thing is reported -/
inductive Category where
  | pageView
  | generic
  deriving Repr, DecidableEq

/-- the name of a category in the log -/
def Category.name : Category → String
  | pageView => "pageview"
  | generic => "generic"

/-- one thing reported -/
structure Event where
  category : Category
  payload : String
  deriving Repr, DecidableEq

/-- why a backend did not take an event -/
inductive SendError where
  | unavailable (reason : String)
  | rejected (payload : String)
  deriving Repr, DecidableEq

/-- what the log says of it -/
def SendError.message : SendError → String
  | unavailable reason => "Telemetry backend unavailable: " ++ reason
  | rejected payload => "Telemetry event rejected: " ++ payload

end TabShell

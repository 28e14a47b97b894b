import TabShell.Log
/-!
# Where telemetry goes

The shell does not act on the world while it changes state: it lists `Effect`s, entries for the
log and events to send, in the order in which they come.  A `Sink` decides what becomes of the
events, and every failure ends in the log; nothing is sent twice and nothing comes back.

* `Effect`, `sent`, `noted`        what a step asks for, and its two kinds apart;
* `Sink.send`                      what a sink does with one event;
* `Sink.received`, `Sink.logged`   what a list of effects leaves in the sink and in the log.
-/

namespace TabShell

/-- something that a step asks for -/
inductive Effect where
  | note (entry : LogEntry)
  | send (event : Event)
  deriving Repr, DecidableEq

/-- the event to send -/
def Effect.event? : Effect → Option Event
  | note _ => none
  | send event => some event

/-- the entry to log -/
def Effect.noted? : Effect → Option LogEntry
  | note entry => some entry
  | send _ => none

/-- the events that are sent -/
def sent (es : List Effect) : List Event := es.filterMap Effect.event?

/-- the entries that are logged whatever the sink -/
def noted (es : List Effect) : List LogEntry := es.filterMap Effect.noted?

theorem sent_append (es fs : List Effect) : sent (es ++ fs) = sent es ++ sent fs := by
  simp [sent]

theorem noted_append (es fs : List Effect) : noted (es ++ fs) = noted es ++ noted fs := by
  simp [noted]

/-- where events go -/
inductive Sink where
  /-- keeps every event -/
  | memory
  /-- reports events in the log; page views under the path of the page -/
  | log (pagePath : String)
  /-- takes events and does nothing -/
  | silent
  /-- is unavailable for page views, for a given reason, and rejects all other events -/
  | failing (reason : String)
  deriving Repr, DecidableEq

/-- what a sink does with one event: what it keeps, what it logs, and why it fails if it does -/
structure Delivery where
  kept : List Event
  entries : List LogEntry
  failure : Option SendError
  deriving Repr, DecidableEq

namespace Sink

/-- what a log says of an event -/
def report (pagePath : String) (e : Event) : LogEntry :=
  match e.category with
  | .pageView => .sentPageView pagePath e.payload
  | .generic => .sentGeneric e.payload

/-- why a failing backend does not take an event -/
def refusal (reason : String) (e : Event) : SendError :=
  match e.category with
  | .pageView => .unavailable reason
  | .generic => .rejected e.payload

/-- one event is handed over -/
def send (s : Sink) (e : Event) : Delivery :=
  match s with
  | memory => ⟨[e], [], none⟩
  | log pagePath => ⟨[], [report pagePath e], none⟩
  | silent => ⟨[], [], none⟩
  | failing reason => ⟨[], [], some (refusal reason e)⟩

/-- the entries that one event leaves in the log; a failure is logged and forgotten -/
def entries (s : Sink) (e : Event) : List LogEntry :=
  (s.send e).entries ++ (s.send e).failure.toList.map (.dropped e)

/-- the entries that one effect leaves in the log -/
def entriesOf (s : Sink) : Effect → List LogEntry
  | .note entry => [entry]
  | .send e => s.entries e

/-- what the sink keeps of a list of effects -/
def received (s : Sink) (es : List Effect) : List Event :=
  (sent es).flatMap fun e => (s.send e).kept

/-- what the log shows of a list of effects -/
def logged (s : Sink) (es : List Effect) : List LogEntry := es.flatMap s.entriesOf

theorem received_append (s : Sink) (es fs : List Effect) :
    s.received (es ++ fs) = s.received es ++ s.received fs := by
  simp [received, sent_append]

theorem logged_append (s : Sink) (es fs : List Effect) :
    s.logged (es ++ fs) = s.logged es ++ s.logged fs := by
  simp [logged]

/-- memory keeps what is sent, in order -/
theorem received_memory (es : List Effect) : memory.received es = sent es := by
  simp [received, send]

/-- the silent sink adds nothing to the log -/
theorem logged_silent (es : List Effect) : silent.logged es = noted es := by
  induction es with
  | nil => rfl
  | cons e es ih =>
    have : silent.logged (e :: es) = silent.entriesOf e ++ silent.logged es := rfl
    rw [this, ih]
    cases e <;> rfl

end Sink

end TabShell

import TabShell.Reducer
import TabShell.Telemetry
/-!
# Observers of transitions

Observers stand around the reducer in a row.  Each sees every transition, the state before, the
action and the state after, and asks for effects; none can change what the reducer answers.

* `Observer.next`, `Observer.effects`   the observer after a transition, and what it asks for;
* `Observer.watch`                      what it asks for when it is shown several;
* `transition`                          the reducer and a row of observers on one action;
* `transitions`                         the same on a list of actions;
* `Deployment.observers`                the row that a deployment wants.
-/

namespace TabShell

/-- one who sees transitions, with what it remembers of them -/
inductive Observer where
  /-- sends events once the core is loaded; a page view when the key changes -/
  | analytics (key : State → Option String) (ready : Bool)
  /-- writes every transition to the log -/
  | logging

namespace Observer

/-- the name under which an observer is registered -/
def name : Observer → String
  | analytics _ _ => "analytics"
  | logging => "logging"

/-- analytics of the active plugin, before the core is loaded -/
def pageViews : Observer := analytics State.activePlugin? false

/-- a page view, if the key has changed to a text that is not empty -/
def pageView (key : State → Option String) (before after : State) : List Event :=
  if key before = key after then []
  else ((key after).filter (· ≠ "")).toList.map (⟨.pageView, ·⟩)

/-- the actions that are reported by their kind, whatever they carry -/
def report : Action → List Event
  | .reloadPeriodChanged period => [⟨.generic, (Action.reloadPeriodChanged period).kind⟩]
  | _ => []

/-- the four lines of the log on a transition -/
def lines (before : State) (a : Action) (after : State) : List LogEntry :=
  if a = .nothing then []
  else [.actionKind a, .previousState before, .action a, .nextState after]

/-- the observer afterwards -/
def next (o : Observer) (a : Action) : Observer :=
  match o with
  | analytics key ready => analytics key (ready || decide (a = .coreLoaded))
  | logging => logging

/-- what an observer asks for -/
def effects (o : Observer) (before : State) (a : Action) (after : State) : List Effect :=
  match o with
  | analytics key ready =>
    if a = .coreLoaded then if ready then [] else [.note .analyticsReady]
    else if ready then (pageView key before after ++ report a).map .send
    else []
  | logging => (lines before a after).map .note

/-- a transition as it is shown to an observer -/
structure Shown where
  before : State
  action : Action
  after : State
  deriving Repr, DecidableEq

/-- the observer after some transitions, which need not follow from each other -/
def shown (o : Observer) (ts : List Shown) : Observer := ts.foldl (fun o t => o.next t.action) o

/-- what it asks for meanwhile -/
def watch : Observer → List Shown → List Effect
  | _, [] => []
  | o, t :: ts => o.effects t.before t.action t.after ++ (o.next t.action).watch ts

/-- whether analytics may send -/
def isReady : Observer → Bool
  | analytics _ ready => ready
  | logging => true

end Observer

/-- what the reducer itself writes to the log -/
def reducerNotes : Action → List LogEntry
  | .reloadPeriodChanged period => if period = 0 then [.periodIgnored] else []
  | _ => []

/-- a state, the observers and the effects so far -/
structure Observed where
  state : State
  observers : List Observer
  effects : List Effect

/-- the effects of one transition -/
def transitionEffects (observers : List Observer) (s : State) (a : Action) : List Effect :=
  (reducerNotes a).map .note ++ observers.flatMap fun o => o.effects s a (reduce s a)

/-- one action: the state changes, the observers see it, the effects add up -/
def transition (r : Observed) (a : Action) : Observed where
  state := reduce r.state a
  observers := r.observers.map (·.next a)
  effects := r.effects ++ transitionEffects r.observers r.state a

/-- a list of actions, first to last -/
def transitions (r : Observed) (as : List Action) : Observed := as.foldl transition r

/-- the state is the reducer's, whoever observes -/
theorem transitions_state (r : Observed) (as : List Action) :
    (transitions r as).state = as.foldl reduce r.state := by
  induction as generalizing r with
  | nil => rfl
  | cons a as ih => exact ih (transition r a)

theorem transitions_append (r : Observed) (as bs : List Action) :
    transitions r (as ++ bs) = transitions (transitions r as) bs := by
  simp [transitions]

/-- where the shell runs -/
inductive Deployment where
  | prod
  | dev
  deriving Repr, DecidableEq

/-- whether developers are about -/
def Deployment.isDev : Deployment → Bool
  | prod => false
  | dev => true

/-- production wants analytics, development the log as well -/
def Deployment.observers : Deployment → List Observer
  | prod => [.pageViews]
  | dev => [.pageViews, .logging]

/-- what the log says when a row of observers is set up -/
def registrations (observers : List Observer) : List LogEntry :=
  observers.map fun o => .observerRegistered o.name

end TabShell

import TabShell.Store.Cycle
/-!
# Runs of a store

What can be done to a store from outside, and what a list of such operations makes of it.

* `Store.select`, `Store.mount`   a subscription or a synchronizer that listens from now on;
* `StoreOp`, `Store.apply`, `Store.run`.

A new subscriber hears the current value at once; only then does it join the others, and only when
everything that waits is done can its label be named, by which an older one of that label goes.
-/

namespace TabShell

variable {V L : Type}

/-- what can be done to a store -/
inductive StoreOp (V L : Type) where
  | dispatch (a : Action)
  | queue (as : List Action)
  | drain
  | select (label : String) (project : State → V) (reactions : List (Reaction V))
  | unsubscribe (label : String)
  | mount (label : String) (sync : Synchronizer L)
  | unmount (label : String)
  | edit (label : String) (text : String)
  | linkChanged (label : String)
  | nothing

/-- the subscriber of a handle, if that is what it is called, known to others -/
def Subscriber.introduced (mount : Bool) (label : String) (handle : Nat) (x : Subscriber V L) :
    Subscriber V L :=
  if x.handle = handle ∧ x.isCalled mount label then { x with known := true } else x

namespace Store

/-- a subscriber joins the others, under the next handle -/
def join (s : Store V L) (label : String) (listener : Listener V L) : Store V L :=
  { s with
    entries := s.entries ++ [⟨true, ⟨s.nextHandle, label, false, listener⟩⟩]
    nextHandle := s.nextHandle + 1
    trace := s.trace ++ [.joined s.nextHandle] }

/-- the subscriber of a handle can be named so from now on -/
def introduce (s : Store V L) (mount : Bool) (label : String) (handle : Nat) : Store V L :=
  s.alter (Subscriber.introduced mount label handle)

@[simp] theorem subscribers_join (s : Store V L) (label : String) (listener : Listener V L) :
    (s.join label listener).subscribers =
      s.subscribers ++ [⟨s.nextHandle, label, false, listener⟩] :=
  Entry.live_append s.entries _

variable [DeepLinker L] [DecidableEq V]

/-- a projection is heard from now on, its current value first -/
def select (s : Store V L) (label : String) (project : State → V)
    (reactions : List (Reaction V)) : Store V L :=
  let v := project s.state
  let handle := s.nextHandle
  let heard := s.deliver handle label v reactions
  let joined := heard.join label (.subscription project v (reactions.map (Reaction.spend v)))
  (joined.drain.unsubscribe label).introduce false label handle

/-- a synchronizer listens from now on; at a route it writes at once -/
def mount (s : Store V L) (label : String) (sync : Synchronizer L) : Store V L :=
  let now := (s.state.activePlugin?, s.state.routeReady)
  let handle := s.nextHandle
  let r := sync.storeChanged now.1 now.2
  let heard := (s.note r.entries).record (r.writes.map (.wrote handle))
  ((heard.join label (.mount r.sync now)).drain.unmount label).introduce true label handle

/-- the store after an operation -/
def apply (s : Store V L) : StoreOp V L → Store V L
  | .dispatch a => s.dispatch a
  | .queue as => s.queue as
  | .drain => s.drain
  | .select label project reactions => s.select label project reactions
  | .unsubscribe label => s.unsubscribe label
  | .mount label sync => s.mount label sync
  | .unmount label => s.unmount label
  | .edit label text => s.edit label text
  | .linkChanged label => s.linkChanged label
  | .nothing => s

/-- the store after operations one after the other -/
def run (s : Store V L) (ops : List (StoreOp V L)) : Store V L := ops.foldl apply s

theorem run_append (s : Store V L) (ops more : List (StoreOp V L)) :
    s.run (ops ++ more) = (s.run ops).run more := by
  simp [run]

theorem pending_dispatch (s : Store V L) (a : Action) : (s.dispatch a).pending = [] :=
  pending_drain _

theorem pending_select (s : Store V L) (label : String) (project : State → V)
    (reactions : List (Reaction V)) : (s.select label project reactions).pending = [] :=
  pending_drain _

theorem pending_mount (s : Store V L) (label : String) (sync : Synchronizer L) :
    (s.mount label sync).pending = [] :=
  pending_drain _

end Store

end TabShell

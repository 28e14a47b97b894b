import TabShell.Observer
import TabShell.Store.Reaction
import TabShell.Synchronizer
/-!
# The store

The store holds the state, the observers of its transitions, the actions that wait their turn, and
an entry for each of those who want to hear of changes.  A subscriber is a subscription, which hears
the values of a projection, or a mount, a synchronizer that hears the active plugin and the
readiness of the route.  Who is dropped goes at once, but the entry stays until the next action: it
only is not active any more.

Everything that happens is kept in order in the `trace`; what was delivered, sent, logged or
written are views of it.

* `Listener`, `Subscriber`, `Entry`, `Store`   the data;
* `Happening`                    what the trace holds;
* `queued`, `processed`, `effects`, `deliveries`, `heard`, `writes`, `joined`, `left`   views of a
                                 trace;
* `Store.subscribers`            those who are active, and what operations make of them.
-/

namespace TabShell

/-- what a subscriber wants to hear, what it heard last, and what it does then -/
inductive Listener (V L : Type) where
  | subscription (project : State → V) (last : V) (reactions : List (Reaction V))
  | mount (sync : Synchronizer L) (last : Option String × Bool)

/-- a listener under a handle of its own; its label is `known` once the call that made it has
returned, and only then can others name it -/
structure Subscriber (V L : Type) where
  handle : Nat
  label : String
  known : Bool
  listener : Listener V L

/-- a subscriber in the list of a store -/
structure Entry (V L : Type) where
  /-- whether the handle is still held; who drops it takes the flag down, and no more -/
  active : Bool
  subscriber : Subscriber V L

/-- how an action came to its turn -/
inductive Origin where
  | dispatched
  /-- it had waited -/
  | queued
  deriving Repr, DecidableEq

/-- one thing that happens in a store -/
inductive Happening (V : Type) where
  /-- an action waits from now on -/
  | queued (a : Action)
  /-- the state changes by an action -/
  | processed (origin : Origin) (a : Action)
  | effect (e : Effect)
  | delivered (handle : Nat) (label : String) (value : V)
  | wrote (handle : Nat) (w : Write)
  /-- a subscriber is told of changes from now on -/
  | joined (handle : Nat)
  /-- a subscriber is told nothing more -/
  | left (handle : Nat)
  deriving Repr

/-- the state, and all who wait, listen or look on -/
structure Store (V L : Type) where
  state : State
  observers : List Observer
  /-- oldest first -/
  pending : List Action
  /-- in the order of their registration; those that are not active go with the next action -/
  entries : List (Entry V L)
  nextHandle : Nat
  trace : List (Happening V)

/-! ## views of a trace -/

section
variable {V : Type}

def Happening.queued? : Happening V → Option Action
  | queued a => some a
  | _ => none

def Happening.action? : Happening V → Option Action
  | processed _ a => some a
  | _ => none

def Happening.actionFrom? (o : Origin) : Happening V → Option Action
  | processed origin a => if origin = o then some a else none
  | _ => none

def Happening.effect? : Happening V → Option Effect
  | effect e => some e
  | _ => none

def Happening.delivery? : Happening V → Option (String × V)
  | delivered _ label value => some (label, value)
  | _ => none

def Happening.heard? (handle : Nat) : Happening V → Option V
  | delivered h _ value => if h = handle then some value else none
  | _ => none

def Happening.write? (handle : Nat) : Happening V → Option Write
  | wrote h w => if h = handle then some w else none
  | _ => none

def Happening.joined? : Happening V → Option Nat
  | joined handle => some handle
  | _ => none

def Happening.left? : Happening V → Option Nat
  | left handle => some handle
  | _ => none

/-- the actions that were queued -/
def queued (t : List (Happening V)) : List Action := t.filterMap Happening.queued?

/-- the actions that were processed -/
def processed (t : List (Happening V)) : List Action := t.filterMap Happening.action?

/-- those of them that came to their turn in a given way -/
def processedFrom (o : Origin) (t : List (Happening V)) : List Action :=
  t.filterMap (Happening.actionFrom? o)

/-- what was logged and sent -/
def effects (t : List (Happening V)) : List Effect := t.filterMap Happening.effect?

/-- the values that were delivered, with the labels of those who heard them -/
def deliveries (t : List (Happening V)) : List (String × V) := t.filterMap Happening.delivery?

/-- the values that the subscription of a handle heard -/
def heard (handle : Nat) (t : List (Happening V)) : List V :=
  t.filterMap (Happening.heard? handle)

/-- what the mount of a handle wrote -/
def writes (handle : Nat) (t : List (Happening V)) : List Write :=
  t.filterMap (Happening.write? handle)

/-- the handles of those who came -/
def joined (t : List (Happening V)) : List Nat := t.filterMap Happening.joined?

/-- the handles of those who went -/
def left (t : List (Happening V)) : List Nat := t.filterMap Happening.left?

theorem queued_append (t u : List (Happening V)) : queued (t ++ u) = queued t ++ queued u := by
  simp [queued]

theorem processed_append (t u : List (Happening V)) :
    processed (t ++ u) = processed t ++ processed u := by
  simp [processed]

theorem effects_append (t u : List (Happening V)) :
    effects (t ++ u) = effects t ++ effects u := by
  simp [effects]

theorem writes_append (handle : Nat) (t u : List (Happening V)) :
    writes handle (t ++ u) = writes handle t ++ writes handle u := by
  simp [writes]

end

/-! ## subscribers -/

variable {V L : Type}

/-- whether a listener is a mount -/
def Listener.isMount : Listener V L → Bool
  | subscription _ _ _ => false
  | mount _ _ => true

/-- the synchronizer of a mount -/
def Listener.sync? : Listener V L → Option (Synchronizer L)
  | subscription _ _ _ => none
  | mount sync _ => some sync

/-- whether it is called so, as a mount or as a subscription -/
def Subscriber.isCalled (mount : Bool) (label : String) (x : Subscriber V L) : Bool :=
  decide (x.label = label) && (x.listener.isMount == mount)

/-- whether others can name it so -/
def Subscriber.isNamed (mount : Bool) (label : String) (x : Subscriber V L) : Bool :=
  x.known && x.isCalled mount label

/-- the subscription that others can name so -/
def Subscriber.isSubscription (label : String) (x : Subscriber V L) : Bool := x.isNamed false label

/-- the mount that others can name so -/
def Subscriber.isMount (label : String) (x : Subscriber V L) : Bool := x.isNamed true label

/-- a subscriber with its listener changed -/
def Subscriber.relisten (f : Listener V L → Listener V L) (x : Subscriber V L) : Subscriber V L :=
  { x with listener := f x.listener }

/-- a mount of a label with its link changed -/
def Subscriber.edited [DeepLinker L] (label text : String) (x : Subscriber V L) :
    Subscriber V L :=
  if x.isMount label then
    x.relisten fun
      | .mount sync last => .mount (sync.edit text) last
      | .subscription project last reactions => .subscription project last reactions
  else x

/-! ## entries -/

namespace Entry

/-- whether this is the active entry of a handle -/
def answers (handle : Nat) (e : Entry V L) : Bool :=
  e.active && decide (e.subscriber.handle = handle)

/-- an entry whose handle is dropped if it is one of some -/
def drop (p : Subscriber V L → Bool) (e : Entry V L) : Entry V L :=
  if p e.subscriber then { e with active := false } else e

/-- an entry whose subscriber is changed as long as it is active -/
def alter (f : Subscriber V L → Subscriber V L) (e : Entry V L) : Entry V L :=
  if e.active then { e with subscriber := f e.subscriber } else e

/-- the active entry of a handle changed, all others left -/
def update (handle : Nat) (f : Subscriber V L → Subscriber V L) :
    List (Entry V L) → List (Entry V L)
  | [] => []
  | e :: es => if e.answers handle then e.alter f :: es else e :: update handle f es

/-- those who are active -/
def live (es : List (Entry V L)) : List (Subscriber V L) :=
  (es.filter (·.active)).map (·.subscriber)

end Entry

namespace Store

/-- a store where nobody listens yet -/
def new (state : State) (observers : List Observer) : Store V L :=
  ⟨state, observers, [], [], 0, []⟩

/-- something happens -/
def record (s : Store V L) (hs : List (Happening V)) : Store V L :=
  { s with trace := s.trace ++ hs }

/-- entries for the log -/
def note (s : Store V L) (entries : List LogEntry) : Store V L :=
  s.record (entries.map fun e => .effect (.note e))

/-- actions that wait their turn -/
def queue (s : Store V L) (as : List Action) : Store V L :=
  { s with pending := s.pending ++ as, trace := s.trace ++ as.map .queued }

/-- those who listen, in the order of their registration -/
def subscribers (s : Store V L) : List (Subscriber V L) := Entry.live s.entries

/-- the number of those who listen -/
def subscriberCount (s : Store V L) : Nat := (s.entries.filter (·.active)).length

/-- whether a subscription can be named so -/
def isSubscribed (s : Store V L) (label : String) : Bool :=
  s.subscribers.any (·.isSubscription label)

/-- whether a mount can be named so -/
def isMounted (s : Store V L) (label : String) : Bool := s.subscribers.any (·.isMount label)

/-- the synchronizer mounted under a label -/
def mounted? (s : Store V L) (label : String) : Option (Synchronizer L) :=
  (s.subscribers.find? (·.isMount label)).bind (·.listener.sync?)

/-- the handles of some subscribers are dropped -/
def dismiss (s : Store V L) (p : Subscriber V L → Bool) : Store V L :=
  { s with
    entries := s.entries.map (Entry.drop p)
    trace := s.trace ++ (s.subscribers.filter p).map fun x => .left x.handle }

/-- the subscription of a label goes -/
def unsubscribe (s : Store V L) (label : String) : Store V L := s.dismiss (·.isSubscription label)

/-- the mount of a label goes -/
def unmount (s : Store V L) (label : String) : Store V L := s.dismiss (·.isMount label)

/-- the listener of a handle changed -/
def update (s : Store V L) (handle : Nat) (f : Listener V L → Listener V L) : Store V L :=
  { s with entries := Entry.update handle (Subscriber.relisten f) s.entries }

/-- those who listen changed -/
def alter (s : Store V L) (f : Subscriber V L → Subscriber V L) : Store V L :=
  { s with entries := s.entries.map (Entry.alter f) }

variable [DeepLinker L]

/-- the mount of a label reports what its link says; the report waits its turn -/
def linkChanged (s : Store V L) (label : String) : Store V L :=
  match s.mounted? label with
  | some sync => (s.note [sync.announcementEntry]).queue [sync.announcement]
  | none => s

/-- the link of a mount changed by someone else -/
def edit (s : Store V L) (label text : String) : Store V L := s.alter (Subscriber.edited label text)

end Store

/-! ## those who are active -/

/-- the first subscriber of a handle changed, all others left -/
def updateFirst (handle : Nat) (f : Subscriber V L → Subscriber V L) :
    List (Subscriber V L) → List (Subscriber V L)
  | [] => []
  | x :: xs => if x.handle = handle then f x :: xs else x :: updateFirst handle f xs

namespace Entry

theorem live_cons (e : Entry V L) (es : List (Entry V L)) :
    live (e :: es) = if e.active then e.subscriber :: live es else live es := by
  unfold live
  rw [List.filter_cons]
  split <;> rfl

theorem live_append (es fs : List (Entry V L)) : live (es ++ fs) = live es ++ live fs := by
  simp [live]

/-- a flag that is taken down takes the subscriber away -/
theorem live_drop (p : Subscriber V L → Bool) (es : List (Entry V L)) :
    live (es.map (drop p)) = (live es).filter fun x => !p x := by
  induction es with
  | nil => rfl
  | cons e es ih =>
    rw [List.map_cons, live_cons, live_cons, ih]
    unfold drop
    cases hp : p e.subscriber <;> cases ha : e.active <;> simp [hp, ha]

theorem live_alter (f : Subscriber V L → Subscriber V L) (es : List (Entry V L)) :
    live (es.map (alter f)) = (live es).map f := by
  induction es with
  | nil => rfl
  | cons e es ih =>
    rw [List.map_cons, live_cons, live_cons, ih]
    unfold alter
    cases ha : e.active <;> simp [ha]

theorem live_update (handle : Nat) (f : Subscriber V L → Subscriber V L) (es : List (Entry V L)) :
    live (update handle f es) = updateFirst handle f (live es) := by
  induction es with
  | nil => rfl
  | cons e es ih =>
    rw [live_cons]
    unfold update answers alter
    cases ha : e.active with
    | false => simp [live_cons, ha, ih]
    | true => by_cases hh : e.subscriber.handle = handle <;> simp [live_cons, updateFirst, ha, hh, ih]

/-- entries that are not active can be forgotten -/
theorem live_filter (es : List (Entry V L)) : live (es.filter (·.active)) = live es := by
  simp [live]

/-- the active entry of a handle is that of the subscriber of the handle -/
theorem find?_answers (handle : Nat) (es : List (Entry V L)) :
    (es.find? (·.answers handle)).map (·.subscriber) =
      (live es).find? fun x => decide (x.handle = handle) := by
  induction es with
  | nil => rfl
  | cons e es ih =>
    rw [live_cons]
    cases ha : e.active with
    | false =>
      have hpass : e.answers handle = false := by simp [answers, ha]
      rw [List.find?_cons, hpass, if_neg Bool.false_ne_true]
      exact ih
    | true =>
      have hanswers : e.answers handle = decide (e.subscriber.handle = handle) := by
        simp [answers, ha]
      rw [if_pos rfl, List.find?_cons, List.find?_cons, hanswers]
      cases decide (e.subscriber.handle = handle) with
      | true => rfl
      | false => exact ih

end Entry

namespace Store

/-! Operations change the list of those who listen as if there were no other entries. -/

theorem subscriberCount_eq (s : Store V L) : s.subscriberCount = s.subscribers.length :=
  (List.length_map _).symm

@[simp] theorem subscribers_dismiss (s : Store V L) (p : Subscriber V L → Bool) :
    (s.dismiss p).subscribers = s.subscribers.filter fun x => !p x :=
  Entry.live_drop p s.entries

@[simp] theorem subscribers_update (s : Store V L) (handle : Nat)
    (f : Listener V L → Listener V L) :
    (s.update handle f).subscribers = updateFirst handle (Subscriber.relisten f) s.subscribers :=
  Entry.live_update handle (Subscriber.relisten f) s.entries

@[simp] theorem subscribers_alter (s : Store V L) (f : Subscriber V L → Subscriber V L) :
    (s.alter f).subscribers = s.subscribers.map f :=
  Entry.live_alter f s.entries

end Store

end TabShell

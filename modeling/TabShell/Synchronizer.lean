import TabShell.Log
import TabShell.Fragment.Linker
/-!
# Keeping a link in step with the active plugin

A synchronizer writes the active plugin through a deep linker and reports what others write there.
It writes nothing before the page is at a route.  Its first write takes the place of the current
entry of the history, later ones add entries.

* `Synchronizer`               a linker, the key and default it writes with, and its `Phase`;
* `Synchronizer.storeChanged`  the active plugin or the readiness of the route has changed;
* `Synchronizer.announcement`  the action that reports what the link says now;
* `Detached`                   a synchronizer without a store, which sends to a channel.
-/

namespace TabShell

/-- how far a synchronizer has got -/
inductive Phase where
  /-- no route yet, nothing written -/
  | waitingForRoute
  /-- at a route, about to write for the first time -/
  | firstWrite
  | synced
  deriving Repr, DecidableEq

/-- the name of a phase -/
def Phase.name : Phase → String
  | waitingForRoute => "WaitingForRoute"
  | firstWrite => "FirstWrite"
  | synced => "Synced"

/-- a linker, how it is written to, and how far that has got -/
structure Synchronizer (L : Type) where
  linker : L
  key : String
  default : String
  phase : Phase

/-- a synchronizer after a step, with the entries and the writes of the step -/
structure SyncStep (L : Type) where
  sync : Synchronizer L
  entries : List LogEntry
  writes : List Write

namespace Synchronizer

variable {L : Type} [DeepLinker L]

/-- a synchronizer that has not begun -/
def new (linker : L) (key default : String) : Synchronizer L :=
  ⟨linker, key, default, .waitingForRoute⟩

/-- the plugin that the link names -/
def plugin (s : Synchronizer L) : String := DeepLinker.get s.linker s.key

/-- a value kept under the key of the synchronizer -/
def put (s : Synchronizer L) (w : Write) : Synchronizer L :=
  { s with linker := DeepLinker.set s.linker { w with key := s.key } }

/-- the link changed by someone else -/
def edit (s : Synchronizer L) (text : String) : Synchronizer L :=
  { s with linker := DeepLinker.edit s.linker text }

/-- the page is at a route -/
def start (s : Synchronizer L) : SyncStep L :=
  if s.phase = .waitingForRoute then ⟨{ s with phase := .firstWrite }, [.syncStarted], []⟩
  else ⟨s, [], []⟩

/-- how the active plugin is written in this phase -/
def writing (s : Synchronizer L) (plugin : String) : Write :=
  ⟨s.key, plugin, decide (s.phase = .firstWrite), s.default⟩

/-- the active plugin is written -/
def write (s : Synchronizer L) (plugin : String) : SyncStep L :=
  let w := s.writing plugin
  ⟨{ s.put w with phase := .synced }, [.syncWrote plugin w.replace], [w]⟩

/-- the active plugin, or whether the page is at a route, has changed -/
def storeChanged (s : Synchronizer L) (plugin : Option String) (ready : Bool) : SyncStep L :=
  if ready then
    let begun := s.start
    let written := begun.sync.write (plugin.getD "")
    ⟨written.sync, begun.entries ++ written.entries, begun.writes ++ written.writes⟩
  else ⟨s, [], []⟩

/-- what is reported when the link has changed -/
def announcement (s : Synchronizer L) : Action := .linkedPluginChanged s.plugin

/-- what the log says then -/
def announcementEntry (s : Synchronizer L) : LogEntry := .linkChanged s.plugin

theorem phase_storeChanged_ready (s : Synchronizer L) (plugin : Option String) :
    (s.storeChanged plugin true).sync.phase = .synced := rfl

/-- one write a call, in place of the current entry if it is the first -/
theorem writes_storeChanged_ready (s : Synchronizer L) (plugin : Option String) :
    (s.storeChanged plugin true).writes =
      [⟨s.key, plugin.getD "", decide (s.phase ≠ .synced), s.default⟩] := by
  simp only [storeChanged, if_true, start, write, writing]
  split
  · simp [*]
  · rename_i h
    cases hp : s.phase <;> simp_all

theorem linker_storeChanged_ready (s : Synchronizer L) (plugin : Option String) :
    (s.storeChanged plugin true).sync.linker =
      DeepLinker.set s.linker ⟨s.key, plugin.getD "", decide (s.phase ≠ .synced), s.default⟩ := by
  simp only [storeChanged, if_true, start, write, writing, put]
  split
  · simp [*]
  · rename_i h
    cases hp : s.phase <;> simp_all

end Synchronizer

/-! ## without a store -/

/-- what can be done to a synchronizer without a store -/
inductive SyncOp where
  | storeChanged (plugin : Option String) (ready : Bool)
  | linkChanged
  | put (value : String) (replace : Bool) (default : String)
  | edit (text : String)
  /-- the receiver of the channel goes -/
  | close
  deriving Repr, DecidableEq

/-- a synchronizer and the channel it sends to: whether anyone receives there, what has arrived,
what was logged and what was written -/
structure Detached (L : Type) where
  sync : Synchronizer L
  receiving : Bool
  arrived : List Action
  entries : List LogEntry
  writes : List Write

namespace Detached

variable {L : Type} [DeepLinker L]

/-- nothing sent yet, and someone there to receive -/
def new (sync : Synchronizer L) : Detached L := ⟨sync, true, [], [], []⟩

/-- an action sent where nobody receives is dropped, and the log says so -/
def send (d : Detached L) (a : Action) : Detached L :=
  if d.receiving then { d with arrived := d.arrived ++ [a] }
  else { d with entries := d.entries ++ [.channelClosed] }

/-- one operation -/
def step (d : Detached L) : SyncOp → Detached L
  | .storeChanged plugin ready =>
    let r := d.sync.storeChanged plugin ready
    { d with
      sync := r.sync, entries := d.entries ++ r.entries, writes := d.writes ++ r.writes }
  | .linkChanged =>
    send { d with entries := d.entries ++ [d.sync.announcementEntry] } d.sync.announcement
  | .put value replace default =>
    let w : Write := ⟨d.sync.key, value, replace, default⟩
    { d with sync := d.sync.put w, writes := d.writes ++ [w] }
  | .edit text => { d with sync := d.sync.edit text }
  | .close => { d with receiving := false }

/-- operations one after the other -/
def run (d : Detached L) (ops : List SyncOp) : Detached L := ops.foldl step d

end Detached

end TabShell

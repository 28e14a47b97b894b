import TabShell.Proofs.Observer.Reports
import TabShell.Proofs.Session.Perform
/-!
# Events at a sink

Effects come one after the other.  An entry goes to the log; an event goes to the sink, and what the
sink answers goes to the log at once, before the next effect.  No answer has a say in what comes
next, so every sink is handed the same events, and what it makes of them can be told apart from all
other entries by the level.

* `Backend`            any way to answer events; a `Sink` always gives the same answer;
* `Outlet`, `run_eq`   what has been handed over, kept and logged, and what effects do to it;
* `Wired`              a reducer whose observers hand their events to a backend as they come;
* `Wired.states_eq`    the states that it goes through, whatever the backend;
* `foldl_work_eq`      such a reducer, and what its observers ask for, handed over in the end;
* `Relayed`            what becomes of some effects at each sink;
* `relayed_of_noted`   it is so if all other entries are told apart by their level.
-/

namespace TabShell

/-- how an event is answered, after others have been -/
abbrev Backend := List Event → Event → Delivery

/-- a sink gives the same answer whatever came before -/
def Sink.backend (sink : Sink) : Backend := fun _ => sink.send

/-- the events that have been handed over, those that have been kept, and the log -/
structure Outlet where
  tried : List Event
  kept : List Event
  log : List LogEntry
  deriving Repr, DecidableEq

namespace Outlet

def empty : Outlet := ⟨[], [], []⟩

/-- an entry is logged; an event is handed over once, and a failure is logged and forgotten -/
def take (b : Backend) (o : Outlet) : Effect → Outlet
  | .note entry => { o with log := o.log ++ [entry] }
  | .send e =>
    let d := b o.tried e
    ⟨o.tried ++ [e], o.kept ++ d.kept, o.log ++ d.entries ++ d.failure.toList.map (.dropped e)⟩

/-- effects one after the other -/
def run (b : Backend) (o : Outlet) (es : List Effect) : Outlet := es.foldl (take b) o

theorem run_append (b : Backend) (o : Outlet) (es fs : List Effect) :
    o.run b (es ++ fs) = (o.run b es).run b fs :=
  List.foldl_append ..

/-- however events are answered, they are the same events -/
theorem tried_run (b : Backend) (o : Outlet) (es : List Effect) :
    (o.run b es).tried = o.tried ++ sent es := by
  induction es generalizing o with
  | nil => exact (List.append_nil _).symm
  | cons e es ih =>
    show ((o.take b e).run b es).tried = _
    rw [ih]
    cases e with
    | note entry => rfl
    | send e =>
      show (o.tried ++ [e]) ++ sent es = o.tried ++ ([e] ++ sent es)
      rw [List.append_assoc]

/-- what effects do to the outlet of a sink -/
theorem run_eq (sink : Sink) (o : Outlet) (es : List Effect) :
    o.run sink.backend es =
      ⟨o.tried ++ sent es, o.kept ++ sink.received es, o.log ++ sink.logged es⟩ := by
  induction es generalizing o with
  | nil =>
    show o = ⟨o.tried ++ [], o.kept ++ [], o.log ++ []⟩
    simp only [List.append_nil]
  | cons e es ih =>
    show (o.take sink.backend e).run sink.backend es = _
    rw [ih]
    cases e with
    | note entry =>
      show Outlet.mk _ _ _ = ⟨_, _, o.log ++ ([entry] ++ sink.logged es)⟩
      rw [← List.append_assoc]
      rfl
    | send e =>
      show Outlet.mk _ _ _ = ⟨o.tried ++ ([e] ++ sent es),
        o.kept ++ ((sink.send e).kept ++ sink.received es),
        o.log ++ ((sink.send e).entries ++ (sink.send e).failure.toList.map (.dropped e) ++
          sink.logged es)⟩
      simp only [← List.append_assoc]
      rfl

theorem foldl_run {α : Type} (b : Backend) (o : Outlet) (asks : α → List Effect) (xs : List α) :
    xs.foldl (fun out x => out.run b (asks x)) o = o.run b (xs.flatMap asks) := by
  induction xs generalizing o with
  | nil => rfl
  | cons x xs ih => rw [List.foldl_cons, ih, List.flatMap_cons, run_append]

end Outlet

/-! ## a reducer at work -/

/-- a reducer, its observers, and the outlet of their events -/
structure Wired where
  state : State
  observers : List Observer
  outlet : Outlet

/-- what a reducer and its surroundings do: an action is reduced, or an entry is logged -/
inductive Job where
  | act (a : Action)
  | note (entry : LogEntry)
  deriving Repr, DecidableEq

/-- the action of a job -/
def Job.action? : Job → Option Action
  | act a => some a
  | note _ => none

namespace Wired

/-- one action: the state changes, then one observer after the other is shown the transition, and
what it asks for is done before the next -/
def step (b : Backend) (w : Wired) (a : Action) : Wired where
  state := reduce w.state a
  observers := w.observers.map (·.next a)
  outlet := w.observers.foldl
    (fun out o => out.run b (o.effects w.state a (reduce w.state a)))
    (w.outlet.run b ((reducerNotes a).map .note))

def work (b : Backend) (w : Wired) : Job → Wired
  | .act a => w.step b a
  | .note entry => { w with outlet := w.outlet.take b (.note entry) }

/-- the states that a reducer at work goes through, from the first -/
def states (b : Backend) (w : Wired) : List Job → List State
  | [] => [w.state]
  | .act a :: jobs => w.state :: (w.step b a).states b jobs
  | .note entry :: jobs => (w.work b (.note entry)).states b jobs

/-- they are those of its actions, whatever becomes of events -/
theorem states_eq (b : Backend) (w : Wired) (jobs : List Job) :
    w.states b jobs = (jobs.filterMap Job.action?).scanl reduce w.state := by
  induction jobs generalizing w with
  | nil => rfl
  | cons job jobs ih =>
    cases job with
    | act a =>
      show w.state :: (w.step b a).states b jobs =
        (a :: jobs.filterMap Job.action?).scanl reduce w.state
      rw [ih, List.scanl_cons]
      rfl
    | note entry => exact ih _

theorem step_eq (b : Backend) (w : Wired) (a : Action) :
    w.step b a = ⟨reduce w.state a, w.observers.map (·.next a),
      w.outlet.run b (transitionEffects w.observers w.state a)⟩ := by
  unfold step transitionEffects
  rw [Outlet.foldl_run, ← Outlet.run_append]

end Wired

namespace Observed

/-- a job whose events are only listed -/
def work (r : Observed) : Job → Observed
  | .act a => transition r a
  | .note entry => { r with effects := r.effects ++ [.note entry] }

/-- all that was listed is handed to a backend -/
def wired (r : Observed) (b : Backend) : Wired :=
  ⟨r.state, r.observers, Outlet.empty.run b r.effects⟩

theorem foldl_work_act (r : Observed) (as : List Action) :
    (as.map .act).foldl work r = transitions r as :=
  List.foldl_map ..

theorem foldl_work_note (r : Observed) (entries : List LogEntry) :
    (entries.map .note).foldl work r = { r with effects := r.effects ++ entries.map .note } := by
  induction entries generalizing r with
  | nil =>
    show r = { r with effects := r.effects ++ [] }
    rw [List.append_nil]
  | cons entry entries ih =>
    rw [List.map_cons, List.foldl_cons, ih, List.map_cons, List.append_cons]
    rfl

theorem wired_work (r : Observed) (b : Backend) (job : Job) :
    (r.work job).wired b = (r.wired b).work b job := by
  cases job with
  | act a =>
    show _ = (r.wired b).step b a
    rw [Wired.step_eq]
    unfold work transition wired
    rw [Outlet.run_append]
  | note entry =>
    unfold work wired
    rw [Outlet.run_append]
    rfl

/-- handing events over as they come is the same as handing them over in the end -/
theorem foldl_work_eq (r : Observed) (b : Backend) (jobs : List Job) :
    jobs.foldl (Wired.work b) (r.wired b) = (jobs.foldl work r).wired b :=
  List.foldl_hom (fun r : Observed => r.wired b) fun r job => (wired_work r b job).symm

end Observed

/-! ## what becomes of events -/

/-- the entry of an effect, if each event has one -/
def Effect.entry (f : Event → LogEntry) : Effect → LogEntry
  | note entry => entry
  | send e => f e

theorem logged_eq_map (sink : Sink) {f : Event → LogEntry} (h : ∀ e, sink.entries e = [f e])
    (es : List Effect) : sink.logged es = es.map (Effect.entry f) := by
  have hentries : sink.entriesOf = fun e => [e.entry f] := by
    funext e
    cases e with
    | note entry => rfl
    | send e => exact h e
  unfold Sink.logged
  rw [hentries, List.map_eq_flatMap]

theorem filter_map_entry {f : Event → LogEntry} {p : LogEntry → Bool} (hsent : ∀ e, p (f e) = true)
    {es : List Effect} (hnoted : ∀ entry ∈ noted es, p entry = false) :
    (es.map (Effect.entry f)).filter p = (sent es).map f := by
  induction es with
  | nil => rfl
  | cons e es ih =>
    cases e with
    | note entry =>
      have hentry : p entry = false := hnoted entry (List.mem_cons_self ..)
      show (entry :: es.map (Effect.entry f)).filter p = (sent es).map f
      rw [List.filter_cons_of_neg (by rw [hentry]; exact Bool.false_ne_true),
        ih fun other h => hnoted other (List.mem_cons_of_mem entry h)]
    | send e =>
      show (f e :: es.map (Effect.entry f)).filter p = f e :: (sent es).map f
      rw [List.filter_cons_of_pos (hsent e), ih hnoted]

/-- what becomes of some effects at each sink -/
structure Relayed (es : List Effect) : Prop where
  /-- the same events are handed over, each once, however they are answered -/
  tried : ∀ b : Backend, (Outlet.empty.run b es).tried = sent es
  sinks : ∀ sink : Sink,
    Outlet.empty.run sink.backend es = ⟨sent es, sink.received es, sink.logged es⟩
  /-- memory keeps the events, and the log has no entry about them -/
  memory : Sink.memory.received es = sent es ∧ Sink.memory.logged es = noted es
  silent : Sink.silent.received es = [] ∧ Sink.silent.logged es = noted es
  /-- in the log each event has one entry in its place, and all others are of other levels -/
  log : ∀ path, (Sink.log path).received es = [] ∧
    (Sink.log path).logged es = es.map (Effect.entry (Sink.report path)) ∧
    ((Sink.log path).logged es).filter (fun entry => decide (entry.level = .info)) =
      (sent es).map (Sink.report path)
  /-- there is a warning in place of each event, and no other but about skipped lines -/
  failing : ∀ reason, (Sink.failing reason).received es = [] ∧
    (Sink.failing reason).logged es =
      es.map (Effect.entry fun e => .dropped e (Sink.refusal reason e)) ∧
    ((Sink.failing reason).logged es).filter
        (fun entry => decide (entry.level = .warn) && entry.skip?.isNone) =
      (sent es).map fun e => .dropped e (Sink.refusal reason e)

theorem level_report (path : String) (e : Event) : (Sink.report path e).level = .info := by
  unfold Sink.report
  cases e.category <;> rfl

theorem relayed_of_noted {es : List Effect}
    (h : ∀ entry ∈ noted es, entry.level = .debug ∨ entry.skip?.isSome = true) : Relayed es where
  tried b := Outlet.tried_run b .empty es
  sinks sink := Outlet.run_eq sink .empty es
  memory := by
    refine ⟨Sink.received_memory es, ?_⟩
    rw [← Sink.logged_silent]
    rfl
  silent := ⟨List.flatMap_eq_nil_iff.mpr fun _ _ => rfl, Sink.logged_silent es⟩
  log path := by
    have hlogged := logged_eq_map (.log path) (f := Sink.report path) (fun _ => rfl) es
    refine ⟨List.flatMap_eq_nil_iff.mpr fun _ _ => rfl, hlogged, ?_⟩
    rw [hlogged]
    refine filter_map_entry (fun e => decide_eq_true (level_report path e)) fun entry hentry => ?_
    rcases h entry hentry with hdebug | hskip
    · rw [hdebug]
      rfl
    · cases entry with
      | lineSkipped number e => rfl
      | _ => cases hskip
  failing reason := by
    have hlogged := logged_eq_map (.failing reason)
      (f := fun e => .dropped e (Sink.refusal reason e)) (fun _ => rfl) es
    refine ⟨List.flatMap_eq_nil_iff.mpr fun _ _ => rfl, hlogged, ?_⟩
    rw [hlogged]
    refine filter_map_entry (fun _ => rfl) fun entry hentry => ?_
    rcases h entry hentry with hdebug | hskip
    · rw [hdebug]
      rfl
    · rw [Option.isNone_eq_false_iff.mpr hskip, Bool.and_false]

end TabShell

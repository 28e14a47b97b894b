import TabShell.Program
import TabShell.Proofs.Script.Commands
import TabShell.Proofs.Store.Alike
import TabShell.Proofs.Telemetry.Runs
/-!
# Runs that differ in their observers

What is dispatched, delivered, written and printed does not depend on who observes, nor on where
telemetry goes.

* `ScriptRun.Alike`   scripts at work in sessions that differ only in their observers;
* `Relays`            a run whose events are handed over as they come, to whoever answers them;
* `unobserved_run`    runs of stores, of scripts and of the program that differ only in that.
-/

namespace TabShell

namespace Session

variable {s t : Session}

theorem alike_start (c : Config) (deployment : Deployment) (telemetryEnabled : Bool)
    (pagePath : String) :
    Alike (start c) (start { c with deployment, telemetryEnabled, pagePath }) := by
  have hnew : Alike (Store.new (State.withReloadPeriod c.reloadPeriod) c.deployment.observers)
      (Store.new (State.withReloadPeriod c.reloadPeriod) deployment.observers : Session) :=
    .new _ _ _
  have hnote := hnew.note (registrations c.deployment.observers)
    (registrations deployment.observers)
  exact hnote.mount address (.new Location.empty c.pluginKey c.defaultValue)

theorem alike_after (h : Alike s t) (c : Command) : Alike (s.after c) (t.after c) := by
  by_cases hc : ∃ f, c = .hash f
  · obtain ⟨f, rfl⟩ := hc
    exact ((h.edit address f).linkChanged address).drain
  · have hno : ∀ f, c ≠ .hash f := fun f hf => hc ⟨f, hf⟩
    cases ha : action? c with
    | none =>
      rw [after_of_action?_eq_none s hno ha, after_of_action?_eq_none t hno ha]
      exact h
    | some a =>
      rw [after_of_action? s ha, after_of_action? t ha]
      exact h.dispatch a

theorem location_eq (h : Alike s t) : s.location = t.location := by
  unfold location
  rw [h.mounted? address]

theorem phase_eq (h : Alike s t) : s.phase = t.phase := by
  unfold phase
  rw [h.mounted? address]

theorem printed_eq (h : Alike s t) (c : Command) : s.printed c = t.printed c := by
  cases c with
  | state =>
    unfold printed
    rw [h.state]
  | location =>
    unfold printed
    rw [location_eq h]
  | _ => rfl

end Session

/-- scripts at work in sessions that differ only in their observers -/
structure ScriptRun.Alike (r r' : ScriptRun) : Prop where
  session : TabShell.Alike r.session r'.session
  out : r.out = r'.out
  err : r.err = r'.err
  failed : r.failed = r'.failed

namespace Script

theorem alike_runFrom {r r' : ScriptRun} (h : r.Alike r') (n : Nat) (lines : List (List UInt8)) :
    (runFrom r n lines).Alike (runFrom r' n lines) := by
  induction lines generalizing r r' n with
  | nil => exact h
  | cons line rest ih =>
    cases hline : reading line with
    | none =>
      rw [runFrom_none hline, runFrom_none hline]
      exact ⟨h.session, h.out, h.err, rfl⟩
    | some read =>
      cases read with
      | error e =>
        rw [runFrom_error hline, runFrom_error hline]
        have hnext : ScriptRun.Alike
            ⟨r.session.note [.lineSkipped n e], r.out, r.err ++ report n e, r.failed⟩
            ⟨r'.session.note [.lineSkipped n e], r'.out, r'.err ++ report n e, r'.failed⟩ :=
          ⟨h.session.note _ _, h.out, congrArg (· ++ report n e) h.err, h.failed⟩
        exact ih hnext (n + 1)
      | ok command =>
        cases command with
        | none =>
          rw [runFrom_silent hline, runFrom_silent hline]
          exact ih h (n + 1)
        | some c =>
          by_cases hquit : c = .quit
          · subst hquit
            rw [runFrom_quit hline, runFrom_quit hline]
            exact h
          · rw [runFrom_command hline hquit, runFrom_command hline hquit]
            have hout : r.out ++ r.session.printed c = r'.out ++ r'.session.printed c := by
              rw [h.out, Session.printed_eq h.session]
            have hnext : ScriptRun.Alike
                ⟨r.session.after c, r.out ++ r.session.printed c, r.err, r.failed⟩
                ⟨r'.session.after c, r'.out ++ r'.session.printed c, r'.err, r'.failed⟩ :=
              ⟨Session.alike_after h.session c, hout, h.err, h.failed⟩
            exact ih hnext (n + 1)

theorem alike_run {s t : Session} (h : Alike s t) (bytes : List UInt8) :
    (run s bytes).Alike (run t bytes) := by
  have hrun : ScriptRun.Alike ⟨s, "", "", false⟩ ⟨t, "", "", false⟩ := ⟨h, rfl, rfl, rfl⟩
  exact alike_runFrom hrun 1 (lines bytes)

end Script

theorem Program.alike_runScript {s t : Session} (h : Alike s t)
    (script : Except Failure (List UInt8)) :
    (runScript s script).1.Alike (runScript t script).1 ∧
      (runScript s script).2 = (runScript t script).2 := by
  cases script with
  | ok bytes =>
    have hrun := Script.alike_run h bytes
    refine ⟨hrun, ?_⟩
    show (if _ then some Failure.notText else none) = if _ then _ else _
    rw [hrun.failed]
  | error f => exact ⟨⟨h, rfl, rfl, rfl⟩, rfl⟩

theorem Program.run_eq (i : Invocation) :
    let found := Config.load i.surroundings
    let r := runScript (Session.start found.value) (scriptOf i found.tree)
    (run i).code = (if r.2 = none then 0 else 1) ∧ (run i).out = r.1.out ∧
      (run i).err = r.1.err ++ (r.2.map (·.report)).getD "" :=
  ⟨rfl, rfl, rfl⟩

/-! ## events at work -/

section
variable {V L : Type}

/-- jobs by which a store comes about: they take the actions that it has processed, and however
events are answered as they come, they leave its state and its observers, and have handed over what
it has sent -/
structure Relays (state : State) (observers : List Observer) (s : Store V L) (jobs : List Job) :
    Prop where
  actions : jobs.filterMap Job.action? = processed s.trace
  wired : ∀ b : Backend, jobs.foldl (Wired.work b) ⟨state, observers, .empty⟩ =
    ⟨s.state, s.observers, Outlet.empty.run b (effects s.trace)⟩

variable {P : LogEntry → Prop} {state : State} {observers observers' : List Observer}
  {s t : Store V L} {jobs jobs' : List Job}

theorem Comes.relays (h : Comes P (.new state observers) s) :
    ∃ jobs, Relays state observers s jobs := by
  obtain ⟨jobs, hprocessed, hwired⟩ := h.wired
  exact ⟨jobs, hprocessed.symm, hwired⟩

/-- whoever answers, the states are those of the trace -/
theorem Relays.states (h : Relays state observers s jobs) (b : Backend) :
    Wired.states b ⟨state, observers, .empty⟩ jobs = statesFrom state s.trace := by
  rw [Wired.states_eq, h.actions]
  rfl

theorem Alike.statesFrom (h : Alike s t) (state : State) :
    statesFrom state s.trace = TabShell.statesFrom state t.trace := by
  unfold TabShell.statesFrom
  rw [← processed_plain, h.trace, processed_plain]

theorem Alike.deliveries (h : Alike s t) : deliveries s.trace = TabShell.deliveries t.trace := by
  rw [← deliveries_plain, h.trace, deliveries_plain]

/-- stores that are alike go through the same states, whoever answers the events of each -/
theorem Alike.states (h : Alike s t) (hs : Relays state observers s jobs)
    (ht : Relays state observers' t jobs') (b b' : Backend) :
    Wired.states b ⟨state, observers, .empty⟩ jobs =
      Wired.states b' ⟨state, observers', .empty⟩ jobs' := by
  rw [hs.states, ht.states, h.statesFrom]

end

/-- **Observers never interfere.**  Two stores with different observers do the same at every step of
a run: all that happens in them but effects is the same, so they go through the same states, deliver
and write the same, and leave the same actions waiting and the same subscribers, with their links
and phases.  Nor does it matter who answers their events as they come, and how: the states are the
same under any two backends.  So a script prints and reports the same in sessions whose deployment
and telemetry differ, and leaves the same location and phase, and with any two sinks there is the
same to see but for the events that arrive.  The program, too, prints and reports the same under such configurations, and ends with the
same code. -/
theorem unobserved_run {V L : Type} [DeepLinker L] [DecidableEq V] :
    (∀ (state : State) (observers observers' : List Observer) (ops : List (StoreOp V L)),
      let s := (Store.new state observers : Store V L).run ops
      let t := (Store.new state observers' : Store V L).run ops
      plain s.trace = plain t.trace ∧
      statesFrom state s.trace = statesFrom state t.trace ∧ s.state = t.state ∧
      deliveries s.trace = deliveries t.trace ∧ s.pending = t.pending ∧
      s.entries = t.entries ∧ s.subscribers = t.subscribers ∧
      s.subscriberCount = t.subscriberCount ∧ (∀ label, s.mounted? label = t.mounted? label) ∧
      ∃ jobs jobs', Relays state observers s jobs ∧ Relays state observers' t jobs' ∧
        ∀ b b' : Backend, Wired.states b ⟨state, observers, .empty⟩ jobs =
          Wired.states b' ⟨state, observers', .empty⟩ jobs') ∧
    (∀ (c : Config) (deployment : Deployment) (telemetryEnabled : Bool) (pagePath : String)
      (sink sink' : Sink) (script : List UInt8),
      let r := Script.run (Session.start c) script
      let r' := Script.run (Session.start { c with deployment, telemetryEnabled, pagePath }) script
      let first := State.withReloadPeriod c.reloadPeriod
      statesFrom first r.session.trace = statesFrom first r'.session.trace ∧
      r.out = r'.out ∧ r.err = r'.err ∧ r.failed = r'.failed ∧
      r.session.state = r'.session.state ∧ r.session.location = r'.session.location ∧
      r.session.phase = r'.session.phase ∧
      { r.seen sink with events := (r'.seen sink').events } = r'.seen sink' ∧
      ∃ jobs jobs', Relays first c.deployment.observers r.session jobs ∧
        Relays first deployment.observers r'.session jobs' ∧
        ∀ b b' : Backend, Wired.states b ⟨first, c.deployment.observers, .empty⟩ jobs =
          Wired.states b' ⟨first, deployment.observers, .empty⟩ jobs') ∧
    ∀ (i i' : Invocation) (deployment : Deployment) (telemetryEnabled : Bool) (pagePath : String),
      let found := Config.load i.surroundings
      let found' := Config.load i'.surroundings
      found'.value = { found.value with deployment, telemetryEnabled, pagePath } →
      Program.scriptOf i found.tree = Program.scriptOf i' found'.tree →
      (Program.run i).code = (Program.run i').code ∧ (Program.run i).out = (Program.run i').out ∧
        (Program.run i).err = (Program.run i').err := by
  refine ⟨?_, ?_, ?_⟩
  · intro state observers observers' ops s t
    have h : Alike s t := (Alike.new state observers observers').run ops
    obtain ⟨jobs, hs⟩ := (Comes.run (Store.new state observers : Store V L) ops).relays
    obtain ⟨jobs', ht⟩ := (Comes.run (Store.new state observers' : Store V L) ops).relays
    exact ⟨h.trace, h.statesFrom state, h.state, h.deliveries, h.pending, h.entries, h.subscribers,
      h.subscriberCount, h.mounted?, jobs, jobs', hs, ht, h.states hs ht⟩
  · intro c deployment telemetryEnabled pagePath sink sink' script r r' first
    have h : r.Alike r' :=
      Script.alike_run (Session.alike_start c deployment telemetryEnabled pagePath) script
    have hlocation := Session.location_eq h.session
    have hseen : { r.seen sink with events := (r'.seen sink').events } = r'.seen sink' := by
      unfold ScriptRun.seen Session.seen
      rw [h.session.state, h.out, hlocation]
    obtain ⟨jobs, hr⟩ := (Comes.script c script).relays
    obtain ⟨jobs', hr'⟩ :=
      (Comes.script { c with deployment, telemetryEnabled, pagePath } script).relays
    exact ⟨h.session.statesFrom first, h.out, h.err, h.failed, h.session.state, hlocation,
      Session.phase_eq h.session, hseen, jobs, jobs', hr, hr', h.session.states hr hr'⟩
  · intro i i' deployment telemetryEnabled pagePath found found' hconfig hscript
    have hstart := Session.alike_start found.value deployment telemetryEnabled pagePath
    rw [← hconfig] at hstart
    obtain ⟨hrun, hfailure⟩ :=
      Program.alike_runScript hstart (Program.scriptOf i found.tree)
    obtain ⟨hcode, hout, herr⟩ := Program.run_eq i
    obtain ⟨hcode', hout', herr'⟩ := Program.run_eq i'
    rw [hcode, hcode', hout, hout', herr, herr', ← hscript]
    exact ⟨by rw [hfailure], hrun.out, by rw [hrun.err, hfailure]⟩

end TabShell

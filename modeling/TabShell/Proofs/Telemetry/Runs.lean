import Mathlib.Data.List.DropRight
import TabShell.Proofs.Script.Lines
import TabShell.Proofs.Store.Views
import TabShell.Proofs.Telemetry.Outlet
/-!
# Events of a whole run

All that a store does with the world is to reduce actions, which its observers see, and to log
entries.  So a run of a store, of a session or of a script is a list of jobs, which does not depend
on where events go; every entry that is not an event's own is for debugging, or tells of a skipped
line.

* `Store.observed`            a store, without those who wait or listen;
* `Comes`                     one store has become another by jobs, with entries of some kind only;
* `Comes.run`, `Comes.script`   what holds of operations, and of the lines of a script;
* `relayed_runs`              what becomes of the events of any run at each sink.
-/

namespace TabShell

/-! ## jobs -/

/-- jobs log what they are told to, and what observers log -/
theorem noted_foldl_work {P : LogEntry → Prop} (hdebug : ∀ entry, entry.level = .debug → P entry)
    {r : Observed} (hr : ∀ entry ∈ noted r.effects, P entry) {jobs : List Job}
    (hjobs : ∀ entry, .note entry ∈ jobs → P entry) :
    ∀ entry ∈ noted (jobs.foldl Observed.work r).effects, P entry := by
  induction jobs generalizing r with
  | nil => exact hr
  | cons job jobs ih =>
    refine ih ?_ fun entry h => hjobs entry (List.mem_cons_of_mem job h)
    intro entry h
    cases job with
    | act a =>
      change entry ∈ noted (r.effects ++ transitionEffects r.observers r.state a) at h
      rw [noted_append] at h
      rcases List.mem_append.mp h with h | h
      · exact hr entry h
      · exact hdebug entry (level_of_mem_transitionEffects (mem_noted.mp h))
    | note other =>
      change entry ∈ noted (r.effects ++ [.note other]) at h
      rw [noted_append] at h
      rcases List.mem_append.mp h with h | h
      · exact hr entry h
      · rw [List.mem_singleton.mp h]
        exact hjobs other (List.mem_cons_self ..)

/-! ## stores -/

section
variable {V L : Type}

/-- the state, the observers and the effects of a store -/
def Store.observed (s : Store V L) : Observed := ⟨s.state, s.observers, effects s.trace⟩

/-- one store has become another by jobs, the actions that it has processed, and entries of some
kind only -/
def Comes (P : LogEntry → Prop) (s t : Store V L) : Prop :=
  ∃ jobs : List Job, (∀ entry, .note entry ∈ jobs → P entry) ∧
    t.observed = jobs.foldl Observed.work s.observed ∧
    processed t.trace = processed s.trace ++ jobs.filterMap Job.action?

theorem effects_map_effect (es : List Effect) :
    effects (es.map (.effect : Effect → Happening V)) = es := by
  unfold effects
  rw [List.filterMap_map]
  exact List.filterMap_some

theorem effects_map_note (entries : List LogEntry) :
    effects (entries.map fun e => (.effect (.note e) : Happening V)) = entries.map .note := by
  have h := effects_map_effect (V := V) (entries.map .note)
  rwa [List.map_map] at h

namespace Comes

variable {P : LogEntry → Prop} {s t u : Store V L}

theorem refl (s : Store V L) : Comes P s s := ⟨[], nofun, rfl, (List.append_nil _).symm⟩

theorem trans (hst : Comes P s t) (htu : Comes P t u) : Comes P s u := by
  obtain ⟨jobs, hjobs, ht, hprocessed⟩ := hst
  obtain ⟨more, hmore, hu, hprocessed'⟩ := htu
  refine ⟨jobs ++ more, fun entry h => ?_, ?_, ?_⟩
  · exact (List.mem_append.mp h).elim (hjobs entry) (hmore entry)
  · rw [List.foldl_append, ← ht, hu]
  · rw [hprocessed', hprocessed, List.filterMap_append, List.append_assoc]

theorem mono {Q : LogEntry → Prop} (hPQ : ∀ entry, P entry → Q entry) (h : Comes P s t) :
    Comes Q s t := by
  obtain ⟨jobs, hjobs, ht⟩ := h
  exact ⟨jobs, fun entry hentry => hPQ entry (hjobs entry hentry), ht⟩

theorem foldl {α : Type} {f : Store V L → α → Store V L} (hf : ∀ s a, Comes P s (f s a))
    (s : Store V L) (as : List α) : Comes P s (as.foldl f s) := by
  induction as generalizing s with
  | nil => exact refl s
  | cons a as ih => exact (hf s a).trans (ih (f s a))

/-- what is neither an action nor an effect is no job -/
theorem idle {hs : List (Happening V)} (hstate : t.state = s.state)
    (hobservers : t.observers = s.observers) (htrace : t.trace = s.trace ++ hs)
    (hhs : ∀ x ∈ hs, x.effect? = none ∧ x.action? = none) : Comes P s t := by
  have heffects : effects hs = [] := List.filterMap_eq_nil_iff.mpr fun x hx => (hhs x hx).1
  have hprocessed : processed hs = [] := List.filterMap_eq_nil_iff.mpr fun x hx => (hhs x hx).2
  refine ⟨[], nofun, ?_, ?_⟩
  · show t.observed = s.observed
    unfold Store.observed
    rw [hstate, hobservers, htrace, effects_append, heffects, List.append_nil]
  · rw [htrace, processed_append, hprocessed]
    rfl

theorem record (s : Store V L) {hs : List (Happening V)}
    (hhs : ∀ x ∈ hs, x.effect? = none ∧ x.action? = none) : Comes P s (s.record hs) :=
  idle rfl rfl rfl hhs

theorem queue (s : Store V L) (as : List Action) : Comes P s (s.queue as) := by
  refine idle rfl rfl (Store.trace_queue s as) fun x hx => ?_
  obtain ⟨a, -, rfl⟩ := List.mem_map.mp hx
  exact ⟨rfl, rfl⟩

theorem dismiss (s : Store V L) (p : Subscriber V L → Bool) : Comes P s (s.dismiss p) := by
  refine idle rfl rfl (Store.trace_dismiss s p) fun x hx => ?_
  obtain ⟨y, -, rfl⟩ := List.mem_map.mp hx
  exact ⟨rfl, rfl⟩

theorem join (s : Store V L) (label : String) (l : Listener V L) : Comes P s (s.join label l) := by
  refine idle rfl rfl (Store.trace_join s label l) fun x hx => ?_
  rw [List.mem_singleton.mp hx]
  exact ⟨rfl, rfl⟩

theorem introduce (s : Store V L) (mount : Bool) (label : String) (k : Nat) :
    Comes P s (s.introduce mount label k) := refl s

theorem note (s : Store V L) {entries : List LogEntry} (h : ∀ entry ∈ entries, P entry) :
    Comes P s (s.note entries) := by
  refine ⟨entries.map .note, fun entry hentry => ?_, ?_, ?_⟩
  · obtain ⟨other, hother, heq⟩ := List.mem_map.mp hentry
    cases heq
    exact h entry hother
  · rw [Observed.foldl_work_note]
    show Observed.mk _ _ (effects (s.note entries).trace) = _
    rw [Store.trace_note, effects_append, effects_map_note]
    rfl
  · rw [Store.trace_note, processed_append]
    simp [processed, Job.action?, List.filterMap_map, Function.comp_def]

/-- the job of an action is to be reduced, where the observers see it -/
theorem advance (s : Store V L) (o : Origin) (a : Action) : Comes P s (s.advance o a) := by
  refine ⟨[.act a], ?_, ?_, ?_⟩
  · intro entry h
    cases List.mem_singleton.mp h
  · show Observed.mk _ _ (effects (s.advance o a).trace) = transition s.observed a
    rw [Store.trace_advance, effects_append]
    show Observed.mk _ _ (_ ++ effects (List.map _ _)) = _
    rw [effects_map_effect]
    rfl
  · rw [Store.trace_advance, processed_append, processed_action]
    rfl

/-! Stores log for debugging only. -/

variable [DeepLinker L]

theorem linkChanged (s : Store V L) (label : String) :
    Comes (·.level = .debug) s (s.linkChanged label) := by
  unfold Store.linkChanged
  cases s.mounted? label with
  | none => exact refl s
  | some sync =>
    refine (note s fun entry h => ?_).trans (queue _ _)
    rw [List.mem_singleton.mp h]
    rfl

theorem act (s : Store V L) (d : Deed) : Comes (·.level = .debug) s (s.act d) := by
  cases d with
  | queue a => exact queue s [a]
  | unsubscribe label => exact dismiss s _
  | linkChanged label => exact linkChanged s label
  | unmount label => exact dismiss s _

theorem react (s : Store V L) (ds : List Deed) : Comes (·.level = .debug) s (s.react ds) :=
  foldl act s ds

/-- what a synchronizer logs and writes when it is told of a state -/
theorem told (s : Store V L) (k : Nat) (sync : Synchronizer L) (plugin : Option String)
    (ready : Bool) :
    let r := sync.storeChanged plugin ready
    Comes (·.level = .debug) s ((s.note r.entries).record (r.writes.map (.wrote k))) := by
  refine (note s fun entry h => level_of_mem_storeChanged h).trans (record _ fun x hx => ?_)
  obtain ⟨w, -, rfl⟩ := List.mem_map.mp hx
  exact ⟨rfl, rfl⟩

theorem deliver (s : Store V L) (k : Nat) (label : String) (v : V) (rs : List (Reaction V)) :
    Comes (·.level = .debug) s (s.deliver k label v rs) := by
  refine (record s fun x hx => ?_).trans (react _ _)
  rw [List.mem_singleton.mp hx]
  exact ⟨rfl, rfl⟩

variable [DecidableEq V]

theorem notify (s : Store V L) (k : Nat) : Comes (·.level = .debug) s (s.notify k) := by
  unfold Store.notify
  cases s.entries.find? (·.answers k) with
  | none => exact refl s
  | some e =>
    obtain ⟨active, handle, label, known, listener⟩ := e
    cases listener with
    | subscription project last reactions =>
      simp only
      split
      · exact refl s
      · exact deliver (s.update k _) k label _ reactions
    | mount sync last =>
      simp only
      split
      · exact refl s
      · exact told (s.update k _) k sync _ _

theorem process (s : Store V L) (o : Origin) (a : Action) :
    Comes (·.level = .debug) s (s.process o a) :=
  (advance s o a).trans (foldl notify _ _)

theorem drain (s : Store V L) : Comes (·.level = .debug) s s.drain := by
  fun_induction Store.drain s with
  | case1 s hnil => exact refl s
  | case2 s a rest hcons ih => exact Comes.trans (process (s.dequeued rest) .queued a) ih

theorem dispatch (s : Store V L) (a : Action) : Comes (·.level = .debug) s (s.dispatch a) :=
  (process s .dispatched a).trans (drain _)

theorem select (s : Store V L) (label : String) (project : State → V) (rs : List (Reaction V)) :
    Comes (·.level = .debug) s (s.select label project rs) :=
  (deliver s s.nextHandle label (project s.state) rs).trans <| (join _ label _).trans <|
    (drain _).trans <| (dismiss _ _).trans (introduce _ _ _ _)

theorem mount (s : Store V L) (label : String) (sync : Synchronizer L) :
    Comes (·.level = .debug) s (s.mount label sync) :=
  (told s s.nextHandle sync s.state.activePlugin? s.state.routeReady).trans <|
    (join _ label _).trans <| (drain _).trans <| (dismiss _ _).trans (introduce _ _ _ _)

theorem apply (s : Store V L) (op : StoreOp V L) : Comes (·.level = .debug) s (s.apply op) := by
  cases op with
  | dispatch a => exact dispatch s a
  | queue as => exact queue s as
  | drain => exact drain s
  | select label project rs => exact select s label project rs
  | unsubscribe label => exact dismiss s _
  | mount label sync => exact mount s label sync
  | unmount label => exact dismiss s _
  | edit label text => exact refl s
  | linkChanged label => exact linkChanged s label
  | nothing => exact refl s

theorem run (s : Store V L) (ops : List (StoreOp V L)) : Comes (·.level = .debug) s (s.run ops) :=
  foldl apply s ops

end Comes

end

/-! ## sessions and scripts -/

namespace Comes

theorem start (c : Config) :
    Comes (·.level = .debug)
      (.new (State.withReloadPeriod c.reloadPeriod) c.deployment.observers) (Session.start c) := by
  refine (note _ fun entry h => ?_).trans (mount _ _ _)
  obtain ⟨o, -, rfl⟩ := List.mem_map.mp h
  rfl

theorem after (s : Session) (c : Command) : Comes (·.level = .debug) s (s.after c) := by
  cases c with
  | hash fragment => exact (linkChanged (s.edit Session.address fragment) _).trans (drain _)
  | state | location | quit => exact refl s
  | _ => exact dispatch s _

/-- a script logs no more than its commands, and what it tells of skipped lines -/
theorem runFrom (r : ScriptRun) (n : Nat) (lines : List (List UInt8)) :
    Comes (fun entry => entry.level = .debug ∨ entry.skip?.isSome = true) r.session
      (Script.runFrom r n lines).session := by
  refine Script.runFrom_induction (P := fun _ t => Comes _ r.session t.session)
    (fun _ _ h => h) ?_ ?_ [] (refl r.session) n lines
  · intro _ t n e h
    refine h.trans (note t.session fun entry hentry => ?_)
    rw [List.mem_singleton.mp hentry]
    exact .inr rfl
  · intro _ t line c _ h
    exact h.trans ((after t.session c).mono fun _ => .inl)

theorem script (c : Config) (bytes : List UInt8) :
    Comes (fun entry => entry.level = .debug ∨ entry.skip?.isSome = true)
      (.new (State.withReloadPeriod c.reloadPeriod) c.deployment.observers)
      (Script.run (Session.start c) bytes).session := by
  have hstart := (start c).mono fun entry h => Or.inl (b := entry.skip?.isSome = true) h
  exact hstart.trans (runFrom ⟨Session.start c, "", "", false⟩ 1 (Script.lines bytes))

end Comes

/-! ## all runs -/

/-- a page is reported under the path without the slashes at its end -/
theorem message_report_pageView (path payload : String) :
    ∃ base slashes : List Char, path.toList = base ++ slashes ∧ (∀ c ∈ slashes, c = '/') ∧
      base.getLast? ≠ some '/' ∧
      (Sink.report path ⟨.pageView, payload⟩).message =
        "Telemetry: send page view: " ++ String.ofList base ++ "/" ++ payload := by
  let isSlash : Char → Bool := fun c => decide (c = '/')
  let base := path.toList.rdropWhile isSlash
  refine ⟨base, path.toList.rtakeWhile isSlash, List.rdropWhile_append_rtakeWhile.symm,
    fun c hc => of_decide_eq_true (p := c = '/') (List.mem_rtakeWhile_imp (p := isSlash) hc),
    fun hlast => ?_, rfl⟩
  have hne : base ≠ [] := by
    intro hnil
    rw [hnil] at hlast
    cases hlast
  have hslash : base.getLast hne = '/' :=
    Option.some.inj ((List.getLast?_eq_some_getLast hne).symm.trans hlast)
  exact List.rdropWhile_last_not isSlash path.toList hne (decide_eq_true hslash)

section
variable {V L : Type}

/-- what became of a store by jobs became of its events by the same jobs, wherever they went -/
theorem Comes.wired {P : LogEntry → Prop} {s t : Store V L} (h : Comes P s t) :
    ∃ jobs : List Job,
      processed t.trace = processed s.trace ++ jobs.filterMap Job.action? ∧
      ∀ b, jobs.foldl (Wired.work b) (s.observed.wired b) = t.observed.wired b := by
  obtain ⟨jobs, -, ht, hprocessed⟩ := h
  exact ⟨jobs, hprocessed, fun b => by rw [ht, Observed.foldl_work_eq]⟩

theorem Comes.noted {P : LogEntry → Prop} (hdebug : ∀ entry, entry.level = .debug → P entry)
    {s t : Store V L} (h : Comes P s t) (hs : effects s.trace = []) :
    ∀ entry ∈ noted (effects t.trace), P entry := by
  obtain ⟨jobs, hjobs, ht, -⟩ := h
  have heffects : effects t.trace = (jobs.foldl Observed.work s.observed).effects :=
    congrArg Observed.effects ht
  have hnone : ∀ entry ∈ TabShell.noted s.observed.effects, P entry := by
    show ∀ entry ∈ TabShell.noted (effects s.trace), P entry
    rw [hs]
    exact nofun
  rw [heffects]
  exact noted_foldl_work hdebug hnone hjobs

variable [DecidableEq V] [DeepLinker L]

/-- **Sinks do not change what is sent.**  Whatever the observers, the state and the actions, a
reducer whose observers hand over their events as they come takes the same steps however its events
are answered, and so the same events are handed over, each once and in order.  It is so in every run
of a store and of a session, too, whose actions are those that the reducer takes.  Memory keeps
these events; a log has one entry at its level in the place of each; there is one warning in the
place of each if none is taken; and the silent sink keeps and logs nothing.  All other entries are
for debugging, or tell of a skipped line.  A page is reported under the path without the slashes at
its end. -/
theorem relayed_runs :
    (∀ (state : State) (observers : List Observer) (as : List Action),
      let r := transitions ⟨state, observers, []⟩ as
      (∀ b : Backend, as.foldl (Wired.step b) ⟨state, observers, .empty⟩ =
        ⟨r.state, r.observers, Outlet.empty.run b r.effects⟩) ∧
      Relayed r.effects ∧ ∀ entry ∈ noted r.effects, entry.level = .debug) ∧
    (∀ (state : State) (observers : List Observer) (ops : List (StoreOp V L)),
      let s := (Store.new state observers).run ops
      (∃ jobs : List Job, jobs.filterMap Job.action? = processed s.trace ∧
        ∀ b : Backend, jobs.foldl (Wired.work b) ⟨state, observers, .empty⟩ =
          ⟨s.state, s.observers, Outlet.empty.run b (effects s.trace)⟩) ∧
      Relayed (effects s.trace) ∧ ∀ entry ∈ noted (effects s.trace), entry.level = .debug) ∧
    (∀ (c : Config) (bytes : List UInt8),
      let s := (Script.run (Session.start c) bytes).session
      (∃ jobs : List Job, jobs.filterMap Job.action? = processed s.trace ∧
        ∀ b : Backend, jobs.foldl (Wired.work b)
            ⟨State.withReloadPeriod c.reloadPeriod, c.deployment.observers, .empty⟩ =
          ⟨s.state, s.observers, Outlet.empty.run b (effects s.trace)⟩) ∧
      Relayed (effects s.trace)) ∧
    ∀ path payload, ∃ base slashes : List Char,
      path.toList = base ++ slashes ∧ (∀ c ∈ slashes, c = '/') ∧ base.getLast? ≠ some '/' ∧
      (Sink.report path ⟨.pageView, payload⟩).message =
        "Telemetry: send page view: " ++ String.ofList base ++ "/" ++ payload := by
  refine ⟨fun state observers as => ?_, fun state observers ops => ?_, fun c bytes => ?_,
    message_report_pageView⟩
  · have hnone : ∀ entry ∈ noted [], entry.level = .debug := nofun
    have hdebug : ∀ entry ∈ noted (transitions ⟨state, observers, []⟩ as).effects,
        entry.level = .debug := by
      rw [← Observed.foldl_work_act]
      refine noted_foldl_work (fun _ h => h) hnone fun entry h => ?_
      obtain ⟨a, -, ha⟩ := List.mem_map.mp h
      cases ha
    refine ⟨fun b => ?_, relayed_of_noted fun entry h => .inl (hdebug entry h), hdebug⟩
    have hwired := Observed.foldl_work_eq ⟨state, observers, []⟩ b (as.map .act)
    rw [List.foldl_map, Observed.foldl_work_act] at hwired
    exact hwired
  · have hcomes := Comes.run (Store.new state observers : Store V L) ops
    have hdebug := hcomes.noted (fun _ h => h) rfl
    obtain ⟨jobs, hprocessed, hwired⟩ := hcomes.wired
    exact ⟨⟨jobs, hprocessed.symm, hwired⟩, relayed_of_noted fun entry h => .inl (hdebug entry h),
      hdebug⟩
  · have hcomes := Comes.script c bytes
    obtain ⟨jobs, hprocessed, hwired⟩ := hcomes.wired
    exact ⟨⟨jobs, hprocessed.symm, hwired⟩, relayed_of_noted (hcomes.noted (fun _ => .inl) rfl)⟩

end

end TabShell

import Mathlib.Data.List.Flatten
import TabShell.Proofs.Telemetry.Outlet
/-!
# Observers in a row

The observers of a row are shown the same transitions, and each remembers only what it was shown.
So what one of them asks for does not depend on the others: it is what it would ask for if it stood
alone from the beginning, and the row asks for one such share after the other.

* `Observed.adds`, `Wired.keeps`, `Wired.logs`   what one more action adds to the effects, to what
                         a backend keeps and to the log;
* `Observer.alone`       what an observer asks for of an action if it is the only one all along;
* `adds_transitions`     what a row adds is what the reducer logs and then these shares, in order;
* `adds_row`             the same with the events and the log of any sink, and for rows that differ.
-/

namespace TabShell

/-- the observer after some actions -/
def Observer.after (o : Observer) (as : List Action) : Observer := as.foldl next o

/-- the effects that one more action adds -/
def Observed.adds (r : Observed) (a : Action) : List Effect :=
  (transition r a).effects.drop r.effects.length

/-- what an observer asks for of an action that follows others, if it is the only one all along:
all that the action adds, without what it adds where nobody observes -/
def Observer.alone (o : Observer) (s : State) (as : List Action) (a : Action) : List Effect :=
  ((transitions ⟨s, [o], []⟩ as).adds a).drop ((transitions ⟨s, [], []⟩ as).adds a).length

namespace Wired

/-- what one more action adds to what is kept -/
def keeps (b : Backend) (w : Wired) (a : Action) : List Event :=
  (w.step b a).outlet.kept.drop w.outlet.kept.length

/-- what one more action adds to the log -/
def logs (b : Backend) (w : Wired) (a : Action) : List LogEntry :=
  (w.step b a).outlet.log.drop w.outlet.log.length

end Wired

/-! ## effects -/

section
variable (s : State) (as : List Action) (a : Action)

theorem Observed.adds_eq (r : Observed) :
    r.adds a = transitionEffects r.observers r.state a :=
  List.drop_left

/-- each observer goes its own way -/
theorem observers_transitions (r : Observed) :
    (transitions r as).observers = r.observers.map (·.after as) := by
  induction as generalizing r with
  | nil => exact (List.map_id r.observers).symm
  | cons a as ih =>
    show (transitions (transition r a) as).observers = _
    rw [ih]
    show (r.observers.map (·.next a)).map (·.after as) = _
    rw [List.map_map]
    rfl

/-- what a row adds, by what its observers have become -/
theorem adds_transitions_eq (os : List Observer) :
    (transitions ⟨s, os, []⟩ as).adds a =
      (reducerNotes a).map .note ++ os.flatMap fun o =>
        (o.after as).effects (as.foldl reduce s) a (reduce (as.foldl reduce s) a) := by
  rw [Observed.adds_eq, observers_transitions, transitions_state]
  unfold transitionEffects
  rw [List.flatMap_map]

/-- where nobody observes there is only what the reducer logs -/
theorem adds_transitions_nil :
    (transitions ⟨s, [], []⟩ as).adds a = (reducerNotes a).map .note := by
  rw [adds_transitions_eq, List.flatMap_nil, List.append_nil]

theorem alone_eq (o : Observer) :
    o.alone s as a = (o.after as).effects (as.foldl reduce s) a (reduce (as.foldl reduce s) a) := by
  unfold Observer.alone
  rw [adds_transitions_nil, adds_transitions_eq, List.flatMap_singleton, List.drop_left]

/-- what a row adds is what the reducer logs, and then the share of one observer after the other -/
theorem adds_transitions (os : List Observer) :
    (transitions ⟨s, os, []⟩ as).adds a =
      (reducerNotes a).map .note ++ os.flatMap fun o => o.alone s as a := by
  rw [adds_transitions_eq]
  simp only [alone_eq]

end

/-! ## a sink -/

theorem Sink.received_flatMap {α : Type} (sink : Sink) (f : α → List Effect) (xs : List α) :
    sink.received (xs.flatMap f) = xs.flatMap fun x => sink.received (f x) := by
  induction xs with
  | nil => rfl
  | cons x xs ih => rw [List.flatMap_cons, Sink.received_append, ih, List.flatMap_cons]

theorem Sink.logged_flatMap {α : Type} (sink : Sink) (f : α → List Effect) (xs : List α) :
    sink.logged (xs.flatMap f) = xs.flatMap fun x => sink.logged (f x) := by
  induction xs with
  | nil => rfl
  | cons x xs ih => rw [List.flatMap_cons, Sink.logged_append, ih, List.flatMap_cons]

/-- entries are logged as they are and no sink receives them -/
theorem Sink.received_map_note (sink : Sink) (entries : List LogEntry) :
    sink.received (entries.map .note) = [] := by
  unfold Sink.received
  rw [Observer.sent_map_note]
  rfl

theorem Sink.logged_map_note (sink : Sink) (entries : List LogEntry) :
    sink.logged (entries.map .note) = entries := by
  unfold Sink.logged
  rw [List.flatMap_map]
  exact List.flatMap_singleton' entries

namespace Wired

variable (sink : Sink) (s : State) (os : List Observer) (as : List Action) (a : Action)

theorem foldl_step_eq (b : Backend) :
    as.foldl (step b) ⟨s, os, .empty⟩ = (transitions ⟨s, os, []⟩ as).wired b := by
  have h := Observed.foldl_work_eq ⟨s, os, []⟩ b (as.map .act)
  rwa [List.foldl_map, Observed.foldl_work_act] at h

/-- what an action adds is what becomes of the effects that it adds -/
theorem step_adds (r : Observed) :
    ((r.wired sink.backend).step sink.backend a).outlet =
      (r.wired sink.backend).outlet.run sink.backend (r.adds a) := by
  rw [step_eq, Observed.adds_eq]
  rfl

theorem keeps_eq :
    (as.foldl (step sink.backend) ⟨s, os, .empty⟩).keeps sink.backend a =
      sink.received ((transitions ⟨s, os, []⟩ as).adds a) := by
  rw [foldl_step_eq]
  unfold keeps
  rw [step_adds, Outlet.run_eq]
  exact List.drop_left

theorem logs_eq :
    (as.foldl (step sink.backend) ⟨s, os, .empty⟩).logs sink.backend a =
      sink.logged ((transitions ⟨s, os, []⟩ as).adds a) := by
  rw [foldl_step_eq]
  unfold logs
  rw [step_adds, Outlet.run_eq]
  exact List.drop_left

theorem keeps_singleton (o : Observer) :
    (as.foldl (step sink.backend) ⟨s, [o], .empty⟩).keeps sink.backend a =
      sink.received (o.alone s as a) := by
  rw [keeps_eq, adds_transitions, Sink.received_append, Sink.received_map_note,
    List.flatMap_singleton, List.nil_append]

theorem logs_singleton (o : Observer) :
    (as.foldl (step sink.backend) ⟨s, [o], .empty⟩).logs sink.backend a =
      reducerNotes a ++ sink.logged (o.alone s as a) := by
  rw [logs_eq, adds_transitions, Sink.logged_append, Sink.logged_map_note,
    List.flatMap_singleton]

end Wired

/-! ## rows -/

/-- **Observers do not meddle with each other.**  Whatever the state, the row and the actions so
far, one more action adds what the reducer logs and then, in the order of the row, what each
observer adds if it is the only one all along.  So it is with the effects, with the events that a
sink keeps and with the log; and at whatever place of whatever row an observer stands, it asks for
the same.  Another order of the row is but another order of what an action adds, and a row from
which observers are missing adds the same without their shares. -/
theorem adds_row (sink : Sink) (s : State) (as : List Action) (a : Action) :
    let run (os : List Observer) : Observed := transitions ⟨s, os, []⟩ as
    let wired (os : List Observer) : Wired := as.foldl (Wired.step sink.backend) ⟨s, os, .empty⟩
    (run []).adds a = (reducerNotes a).map .note ∧
    (∀ os, (run os).adds a = (run []).adds a ++ os.flatMap fun o => o.alone s as a) ∧
    (∀ os, (wired os).keeps sink.backend a =
      os.flatMap fun o => (wired [o]).keeps sink.backend a) ∧
    (∀ os, (wired os).logs sink.backend a =
      reducerNotes a ++ os.flatMap fun o =>
        ((wired [o]).logs sink.backend a).drop (reducerNotes a).length) ∧
    (∀ os, (run os).observers.map
        (fun o => o.effects (run os).state a (reduce (run os).state a)) =
      os.map fun o => o.alone s as a) ∧
    (∀ os os', os.Perm os' → ((run os).adds a).Perm ((run os').adds a)) ∧
    ∀ os os', os.Sublist os' → ((run os).adds a).Sublist ((run os').adds a) := by
  intro run wired
  have hadds : ∀ os, (run os).adds a =
      (reducerNotes a).map .note ++ os.flatMap fun o => o.alone s as a := adds_transitions s as a
  refine ⟨adds_transitions_nil s as a, fun os => ?_, fun os => ?_, fun os => ?_, fun os => ?_,
    fun os os' h => ?_, fun os os' h => ?_⟩
  · rw [hadds os, adds_transitions_nil]
  · rw [Wired.keeps_eq, adds_transitions, Sink.received_append, Sink.received_map_note,
      List.nil_append, Sink.received_flatMap]
    simp only [wired, Wired.keeps_singleton]
  · rw [Wired.logs_eq, adds_transitions, Sink.logged_append, Sink.logged_map_note,
      Sink.logged_flatMap]
    simp only [wired, Wired.logs_singleton, List.drop_left]
  · simp only [run, observers_transitions, transitions_state, List.map_map, alone_eq]
    rfl
  · rw [hadds os, hadds os']
    exact (h.flatMap_right _).append_left _
  · rw [hadds os, hadds os']
    exact (h.flatMap _).append_left _

/-- a period of zero, of which the reducer logs something and two of three observers send an event;
one who stands in front of them and one who is taken away change nothing of that -/
theorem adds_row_period :
    let route : Observer := .analytics State.route false
    let row : List Observer := [route, .logging, .pageViews]
    let run (os : List Observer) : Observed :=
      transitions ⟨State.initial, os, []⟩ [.navigated "/", .coreLoaded]
    let a : Action := .reloadPeriodChanged 0
    let sends : Effect := .send ⟨.generic, "[Core] Reload Period Changed"⟩
    (run [route, .pageViews]).adds a = [.note .periodIgnored, sends, sends] ∧
    row.Perm [.logging, route, .pageViews] ∧ [route, .pageViews].Sublist row ∧
    ((run row).adds a).Perm ((run [.logging, route, .pageViews]).adds a) ∧
    ((run [route, .pageViews]).adds a).Sublist ((run row).adds a) := by
  intro route row run a sends
  have hperm : row.Perm [.logging, route, .pageViews] := .swap ..
  have hsublist : [route, .pageViews].Sublist row := ((List.Sublist.refl _).cons _).cons_cons _
  obtain ⟨-, -, -, -, -, hreordered, hremoved⟩ :=
    adds_row .memory State.initial [.navigated "/", .coreLoaded] a
  exact ⟨by decide, hperm, hsublist, hreordered _ _ hperm, hremoved _ _ hsublist⟩

end TabShell

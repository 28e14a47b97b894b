import TabShell.Proofs.Store.Tick
import TabShell.Proofs.Store.Views
/-!
# What a step is to the state

A step either takes the oldest action that waits, or leaves the state and the observers alone and
sends nothing.

* `Quiet`                 a step of the second kind, or several;
* `Step.quiet_or_takes`   every step is of one kind or the other.
-/

namespace TabShell

variable {V L : Type}

/-- from one store to another, with `e` added to the trace, nothing is processed and nothing sent -/
structure Quiet (s t : Store V L) (e : List (Happening V)) : Prop where
  trace : t.trace = s.trace ++ e
  state : t.state = s.state
  observers : t.observers = s.observers
  processed : processed e = []
  sent : sent (effects e) = []

namespace Quiet

variable {r s t : Store V L} {e f : List (Happening V)}

theorem trans (h : Quiet r s e) (h' : Quiet s t f) : Quiet r t (e ++ f) where
  trace := by rw [h'.trace, h.trace, List.append_assoc]
  state := h'.state.trans h.state
  observers := h'.observers.trans h.observers
  processed := by rw [processed_append, h.processed, h'.processed]; rfl
  sent := by rw [effects_append, sent_append, h.sent, h'.sent]; rfl

theorem queue (s : Store V L) (as : List Action) : Quiet s (s.queue as) (as.map .queued) :=
  ⟨rfl, rfl, rfl, by simp [TabShell.processed, Function.comp_def],
    by simp [TabShell.sent, effects, Function.comp_def]⟩

theorem note (s : Store V L) (entries : List LogEntry) :
    Quiet s (s.note entries) (entries.map fun e => .effect (.note e)) :=
  ⟨rfl, rfl, rfl, by simp [TabShell.processed, Function.comp_def],
    by simp [TabShell.sent, effects, Function.comp_def]⟩

theorem dismiss (s : Store V L) (p : Subscriber V L → Bool) :
    Quiet s (s.dismiss p) ((s.subscribers.filter p).map fun x => .left x.handle) :=
  ⟨rfl, rfl, rfl, by simp [TabShell.processed, Function.comp_def],
    by simp [TabShell.sent, effects, Function.comp_def]⟩

theorem wrote (s : Store V L) (h : Nat) (ws : List Write) :
    Quiet s (s.record (ws.map (.wrote h))) (ws.map (.wrote h)) :=
  ⟨rfl, rfl, rfl, by simp [TabShell.processed, Function.comp_def],
    by simp [TabShell.sent, effects, Function.comp_def]⟩

theorem still (htrace : t.trace = s.trace) (hstate : t.state = s.state)
    (hobservers : t.observers = s.observers) : Quiet s t [] :=
  ⟨by rw [htrace, List.append_nil], hstate, hobservers, rfl, rfl⟩

theorem aside (h : Aside s t) : ∃ e, Quiet s t e := by
  cases h with
  | queue as => exact ⟨_, queue s as⟩
  | note entries => exact ⟨_, note s entries⟩
  | drop mount label => exact ⟨_, dismiss s _⟩

theorem edit [DeepLinker L] (s : Store V L) (label text : String) :
    Quiet s (s.edit label text) [] :=
  still rfl rfl rfl

end Quiet

variable [DeepLinker L] [DecidableEq V]

/-- a step is quiet, or takes the oldest action that waits -/
theorem Step.quiet_or_takes {m m' : Moment V L} (h : Step m m') :
    (∃ e, Quiet m.store m'.store e) ∨
    ∃ a rest, m'.store = (m.store.dequeued rest).advance .queued a := by
  cases h with
  | tick h =>
    cases h with
    | aside due h => exact .inl (Quiet.aside h)
    | pass s h due current => exact .inl ⟨[], .still rfl rfl rfl⟩
    | hear s h due label project last reactions listens changed =>
      exact .inl ⟨[.delivered h label (project s.state)], rfl, rfl, rfl, rfl, rfl⟩
    | write s h due sync last listens changed =>
      have hupdate : Quiet s (s.update h fun _ => .mount (sync.storeChanged s.state.link.1
          s.state.link.2).sync s.state.link) [] := .still rfl rfl rfl
      exact .inl ⟨_, (hupdate.trans (.note _ _)).trans (.wrote _ h _)⟩
    | take s a rest waits => exact .inr ⟨a, rest, rfl⟩
  | greet s label v => exact .inl ⟨[.delivered s.nextHandle label v], rfl, rfl, rfl, rfl, rfl⟩
  | greetMount s ws => exact .inl ⟨_, .wrote s s.nextHandle ws⟩
  | join s label l => exact .inl ⟨[.joined s.nextHandle], rfl, rfl, rfl, rfl, rfl⟩
  | introduce s mount label h free => exact .inl ⟨[], .still rfl rfl rfl⟩

end TabShell

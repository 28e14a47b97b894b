import Mathlib.Tactic.SplitIfs
import TabShell.Observer
import TabShell.Synchronizer
/-!
# What is logged for debugging

The reducer, its observers and the synchronizers only log what helps to debug them.  Entries of any
other level are about events, about lines that were skipped, or about the program as a whole.

* `level_of_mem_transitionEffects`   what is logged of a transition;
* `level_of_mem_storeChanged`        what a synchronizer logs when it is told of a state.
-/

namespace TabShell

theorem mem_noted {es : List Effect} {entry : LogEntry} :
    entry ∈ noted es ↔ .note entry ∈ es := by
  unfold noted
  rw [List.mem_filterMap]
  constructor
  · rintro ⟨e, he, hentry⟩
    cases e with
    | note other =>
      cases hentry
      exact he
    | send event => cases hentry
  · intro h
    exact ⟨.note entry, h, rfl⟩

/-- an observer logs for debugging only -/
theorem level_of_mem_effects {o : Observer} {x y : State} {a : Action} {entry : LogEntry}
    (h : .note entry ∈ o.effects x a y) : entry.level = .debug := by
  cases o with
  | analytics key ready =>
    change _ ∈ ite (a = .coreLoaded) (ite (ready = true) _ _) (ite (ready = true) _ _) at h
    split_ifs at h
    · cases h
    · cases List.mem_singleton.mp h
      rfl
    · obtain ⟨event, -, hevent⟩ := List.mem_map.mp h
      cases hevent
    · cases h
  | logging =>
    obtain ⟨line, hline, hentry⟩ := List.mem_map.mp h
    cases hentry
    unfold Observer.lines at hline
    split at hline
    · cases hline
    · simp only [List.mem_cons, List.not_mem_nil, or_false] at hline
      rcases hline with rfl | rfl | rfl | rfl <;> rfl

theorem level_of_mem_reducerNotes {a : Action} {entry : LogEntry} (h : entry ∈ reducerNotes a) :
    entry.level = .debug := by
  cases a with
  | reloadPeriodChanged period =>
    change entry ∈ ite (period = 0) [.periodIgnored] [] at h
    split at h
    · rw [List.mem_singleton.mp h]
      rfl
    · cases h
  | _ => cases h

/-- and so does the reducer -/
theorem level_of_mem_transitionEffects {observers : List Observer} {x : State} {a : Action}
    {entry : LogEntry} (h : .note entry ∈ transitionEffects observers x a) :
    entry.level = .debug := by
  rcases List.mem_append.mp h with h | h
  · obtain ⟨other, hother, hentry⟩ := List.mem_map.mp h
    cases hentry
    exact level_of_mem_reducerNotes hother
  · obtain ⟨o, -, h⟩ := List.mem_flatMap.mp h
    exact level_of_mem_effects h

/-- a synchronizer logs for debugging only -/
theorem level_of_mem_storeChanged {L : Type} [DeepLinker L] {sync : Synchronizer L} {plugin : Option String}
    {ready : Bool} {entry : LogEntry} (h : entry ∈ (sync.storeChanged plugin ready).entries) :
    entry.level = .debug := by
  unfold Synchronizer.storeChanged at h
  split at h
  · rcases List.mem_append.mp h with h | h
    · unfold Synchronizer.start at h
      split at h
      · rw [List.mem_singleton.mp h]
        rfl
      · cases h
    · rw [List.mem_singleton.mp h]
      rfl
  · cases h

end TabShell

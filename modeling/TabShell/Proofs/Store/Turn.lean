import TabShell.Proofs.Store.Roster
/-!
# What a step is to one subscriber

Most steps do not concern the subscriber of a given handle: it listens afterwards as before, unless
it has been dismissed.  The others are its turns.

* `Bystander`        a step that does not concern a handle;
* `Turn`             a step that does: the subscriber is passed over or told, or a cycle begins;
* `Step.of_handle`   every step is one or the other.
-/

namespace TabShell

variable {V L : Type}

/-- from one store to another, with `e` added to the trace, nothing is processed and the subscriber
of a handle is not told anything; it listens as before or has left -/
structure Bystander (k : Nat) (s t : Store V L) (e : List (Happening V)) : Prop where
  trace : t.trace = s.trace ++ e
  state : t.state = s.state
  pending : t.pending = s.pending ++ queued e
  processed : processed e = []
  heard : heard k e = []
  writes : writes k e = []
  stays : ∀ l, s.listener? k = some l → t.listener? k = some l ∨ k ∈ left e

/-- a turn of the subscriber of a handle -/
inductive Turn [DeepLinker L] [DecidableEq V] (k : Nat) : Moment V L → Moment V L → Prop
  | pass (s : Store V L) (due : List Nat)
      (current : ∀ l, s.listener? k = some l → l.IsCurrent s.state) :
      Turn k ⟨s, k :: due⟩ ⟨s, due⟩
  | hear (s : Store V L) (due : List Nat) (label : String) (project : State → V) (last : V)
      (reactions : List (Reaction V))
      (listens : s.listener? k = some (.subscription project last reactions))
      (changed : project s.state ≠ last) :
      Turn k ⟨s, k :: due⟩
        ⟨(s.update k fun _ => .subscription project (project s.state)
            (reactions.map (Reaction.spend (project s.state)))).record
          [.delivered k label (project s.state)], due⟩
  | write (s : Store V L) (due : List Nat) (sync : Synchronizer L) (last : Option String × Bool)
      (listens : s.listener? k = some (.mount sync last)) (changed : s.state.link ≠ last) :
      Turn k ⟨s, k :: due⟩
        ⟨((s.update k fun _ => .mount (sync.storeChanged s.state.link.1 s.state.link.2).sync
            s.state.link).note (sync.storeChanged s.state.link.1 s.state.link.2).entries).record
          ((sync.storeChanged s.state.link.1 s.state.link.2).writes.map (.wrote k)), due⟩
  | take (s : Store V L) (a : Action) (rest : List Action) (waits : s.pending = a :: rest) :
      Turn k ⟨s, []⟩ ⟨(s.dequeued rest).advance .queued a, s.handles⟩

namespace Bystander

variable {k : Nat} {r s t : Store V L} {e f : List (Happening V)}

theorem refl (s : Store V L) : Bystander k s s [] :=
  ⟨by simp, rfl, by simp [queued], rfl, rfl, rfl, fun _ h => .inl h⟩

theorem trans (h : Bystander k r s e) (h' : Bystander k s t f) : Bystander k r t (e ++ f) where
  trace := by rw [h'.trace, h.trace, List.append_assoc]
  state := h'.state.trans h.state
  pending := by rw [h'.pending, h.pending, queued_append, List.append_assoc]
  processed := by rw [processed_append, h.processed, h'.processed]; rfl
  heard := by rw [heard_append, h.heard, h'.heard]; rfl
  writes := by rw [writes_append, h.writes, h'.writes]; rfl
  stays := by
    intro l hl
    rw [left_append, List.mem_append]
    rcases h.stays l hl with hl | hleft
    · exact (h'.stays l hl).imp id .inr
    · exact .inr (.inl hleft)

theorem queue (s : Store V L) (as : List Action) : Bystander k s (s.queue as) (as.map .queued) where
  trace := rfl
  state := rfl
  pending := by simp [Store.queue, queued, Function.comp_def]
  processed := by simp [TabShell.processed, Function.comp_def]
  heard := by simp [TabShell.heard, Function.comp_def]
  writes := by simp [TabShell.writes, Function.comp_def]
  stays _ h := .inl h

theorem note (s : Store V L) (entries : List LogEntry) :
    Bystander k s (s.note entries) (entries.map fun e => .effect (.note e)) where
  trace := rfl
  state := rfl
  pending := by simp [Store.note, Store.record, queued, Function.comp_def]
  processed := by simp [TabShell.processed, Function.comp_def]
  heard := by simp [TabShell.heard, Function.comp_def]
  writes := by simp [TabShell.writes, Function.comp_def]
  stays _ h := .inl h

theorem dismiss (s : Store V L) (p : Subscriber V L → Bool) :
    Bystander k s (s.dismiss p) ((s.subscribers.filter p).map fun x => .left x.handle) where
  trace := rfl
  state := rfl
  pending := by simp [Store.dismiss, queued, Function.comp_def]
  processed := by simp [TabShell.processed, Function.comp_def]
  heard := by simp [TabShell.heard, Function.comp_def]
  writes := by simp [TabShell.writes, Function.comp_def]
  stays := by
    intro l hl
    rw [left_lefts]
    exact Store.listener?_dismiss hl p

theorem aside (h : Aside s t) : ∃ e, Bystander k s t e := by
  cases h with
  | queue as => exact ⟨_, queue s as⟩
  | note entries => exact ⟨_, note s entries⟩
  | drop mount label => exact ⟨_, dismiss s _⟩

theorem asides (h : Store.Asides s t) : ∃ e, Bystander k s t e := by
  induction h with
  | refl => exact ⟨[], refl s⟩
  | tail _ h ih =>
    obtain ⟨e, he⟩ := ih
    obtain ⟨f, hf⟩ := aside h
    exact ⟨e ++ f, he.trans hf⟩

theorem update {j : Nat} (hne : k ≠ j) (s : Store V L) (f : Listener V L → Listener V L) :
    Bystander k s (s.update j f) [] where
  trace := by simp
  state := rfl
  pending := (List.append_nil _).symm
  processed := rfl
  heard := rfl
  writes := rfl
  stays l h := .inl ((Store.listener?_update_of_ne hne s f).trans h)

theorem delivered {j : Nat} (hne : k ≠ j) (s : Store V L) (label : String) (v : V) :
    Bystander k s (s.record [.delivered j label v]) [.delivered j label v] where
  trace := rfl
  state := rfl
  pending := (List.append_nil _).symm
  processed := rfl
  heard := by simp [TabShell.heard, Ne.symm hne]
  writes := rfl
  stays _ h := .inl h

theorem wrote {j : Nat} (hne : k ≠ j) (s : Store V L) (ws : List Write) :
    Bystander k s (s.record (ws.map (.wrote j))) (ws.map (.wrote j)) where
  trace := rfl
  state := rfl
  pending := by simp [Store.record, queued, Function.comp_def]
  processed := by simp [TabShell.processed, Function.comp_def]
  heard := by simp [TabShell.heard, Function.comp_def]
  writes := by simp [TabShell.writes, Function.comp_def, Ne.symm hne]
  stays _ h := .inl h

theorem join (hne : k ≠ s.nextHandle) (label : String) (l : Listener V L) :
    Bystander k s (s.join label l) [.joined s.nextHandle] where
  trace := rfl
  state := rfl
  pending := (List.append_nil _).symm
  processed := rfl
  heard := rfl
  writes := rfl
  stays _ h := .inl ((Store.listener?_join_of_ne hne label l).trans h)

theorem introduce (s : Store V L) (mount : Bool) (label : String) (j : Nat) :
    Bystander k s (s.introduce mount label j) [] where
  trace := by simp
  state := rfl
  pending := (List.append_nil _).symm
  processed := rfl
  heard := rfl
  writes := rfl
  stays l h := .inl ((Store.listener?_introduce s mount label j k).trans h)

end Bystander

variable [DeepLinker L] [DecidableEq V]

/-- a step is a turn of a subscriber who has come, or does not concern it -/
theorem Step.of_handle {m m' : Moment V L} (h : Step m m') {k : Nat} (hk : k ≠ m.store.nextHandle) :
    (∃ e, Bystander k m.store m'.store e ∧ (k ∈ m.due → k ∈ m'.due)) ∨ Turn k m m' := by
  cases h with
  | tick h =>
    cases h with
    | aside due h =>
      obtain ⟨e, he⟩ := Bystander.aside (k := k) h
      exact .inl ⟨e, he, id⟩
    | pass s j due current =>
      by_cases hj : k = j
      · subst hj
        exact .inr (.pass s due current)
      · exact .inl ⟨[], .refl s, fun hmem => (List.mem_cons.mp hmem).resolve_left hj⟩
    | hear s j due label project last reactions listens changed =>
      by_cases hj : k = j
      · subst hj
        exact .inr (.hear s due label project last reactions listens changed)
      · exact .inl ⟨_, (Bystander.update hj s _).trans (.delivered hj _ label _),
          fun hmem => (List.mem_cons.mp hmem).resolve_left hj⟩
    | write s j due sync last listens changed =>
      by_cases hj : k = j
      · subst hj
        exact .inr (.write s due sync last listens changed)
      · exact .inl ⟨_, ((Bystander.update hj s _).trans (.note _ _)).trans (.wrote hj _ _),
          fun hmem => (List.mem_cons.mp hmem).resolve_left hj⟩
    | take s a rest waits => exact .inr (.take s a rest waits)
  | greet s label v => exact .inl ⟨_, .delivered hk s label v, id⟩
  | greetMount s ws => exact .inl ⟨_, .wrote hk s ws, id⟩
  | join s label l => exact .inl ⟨_, .join hk label l, id⟩
  | introduce s mount label j free => exact .inl ⟨_, .introduce s mount label j, id⟩

end TabShell

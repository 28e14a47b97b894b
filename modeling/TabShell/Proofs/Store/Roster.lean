import TabShell.Proofs.Store.Tick
import TabShell.Proofs.Store.Views
/-!
# The roster of a store

Handles are given in order and never twice, and who has left does not come back.

* `Roster`         those who listen are those who came less those who left, in the order in which
                   they came;
* `roster_run`     that is so in every run.
-/

namespace TabShell

variable {V L : Type}

/-- those who listen came one after the other and have not left -/
structure Roster (s : Store V L) : Prop where
  handles : s.handles = (List.range s.nextHandle).filter fun h => decide (h ∉ left s.trace)
  left_lt : ∀ h ∈ left s.trace, h < s.nextHandle

namespace Roster

variable {s t : Store V L}

theorem nodup (hs : Roster s) : s.handles.Nodup := by
  rw [hs.handles]
  exact List.Pairwise.filter _ List.nodup_range

theorem mem_handles (hs : Roster s) {h : Nat} :
    h ∈ s.handles ↔ h < s.nextHandle ∧ h ∉ left s.trace := by
  rw [hs.handles, List.mem_filter, List.mem_range, decide_eq_true_eq]

theorem fresh (hs : Roster s) : s.nextHandle ∉ s.handles := by
  intro h
  exact Nat.lt_irrefl _ (hs.mem_handles.mp h).1

/-- nobody listens under the handle of one who left -/
theorem listener?_of_left (hs : Roster s) {h : Nat} (hleft : h ∈ left s.trace) :
    s.listener? h = none :=
  Store.listener?_eq_none.mpr fun hmem => (hs.mem_handles.mp hmem).2 hleft

/-- who listens has not left -/
theorem notMem_left (hs : Roster s) {t d : List (Happening V)} (htrace : s.trace = t ++ d) {h : Nat}
    {l : Listener V L} (hl : s.listener? h = some l) : h ∉ left d := by
  intro hd
  have hleft : h ∈ left s.trace := by
    rw [htrace, left_append, List.mem_append]
    exact .inr hd
  cases (hs.listener?_of_left hleft).symm.trans hl

theorem new (state : State) (observers : List Observer) :
    Roster (Store.new state observers : Store V L) :=
  ⟨rfl, nofun⟩

theorem keep (hs : Roster s) {d : List (Happening V)} (htrace : t.trace = s.trace ++ d)
    (hleft : left d = []) (hhandles : t.handles = s.handles) (hnext : t.nextHandle = s.nextHandle) :
    Roster t := by
  have hsame : left t.trace = left s.trace := by
    rw [htrace, left_append, hleft, List.append_nil]
  refine ⟨?_, ?_⟩
  · rw [hhandles, hnext, hsame, hs.handles]
  · rw [hsame, hnext]
    exact hs.left_lt

theorem map_filter_not {p : Subscriber V L → Bool} {xs : List (Subscriber V L)}
    (hxs : (xs.map (·.handle)).Nodup) :
    (xs.filter fun x => !p x).map (·.handle) =
      (xs.map (·.handle)).filter fun h => decide (h ∉ (xs.filter p).map (·.handle)) := by
  induction xs with
  | nil => rfl
  | cons x xs ih =>
    rw [List.map_cons, List.nodup_cons] at hxs
    obtain ⟨hx, hxs⟩ := hxs
    by_cases hp : p x = true
    · rw [List.filter_cons_of_neg (by simp [hp]), ih hxs, List.filter_cons_of_pos hp, List.map_cons,
        List.map_cons, List.filter_cons_of_neg (by simp)]
      apply List.filter_congr
      intro h hh
      have hne : h ≠ x.handle := fun e => hx (e ▸ hh)
      simp [hne]
    · have hkeep : x.handle ∉ (xs.filter p).map (·.handle) := by
        intro h
        obtain ⟨y, hy, hyx⟩ := List.mem_map.mp h
        exact hx (List.mem_map.mpr ⟨y, (List.mem_filter.mp hy).1, hyx⟩)
      rw [List.filter_cons_of_pos (by simp [hp]), List.map_cons, ih hxs, List.filter_cons_of_neg hp,
        List.map_cons, List.filter_cons_of_pos (by simpa using hkeep)]

/-- who is dismissed leaves, and all others keep their places -/
theorem dismiss (hs : Roster s) (p : Subscriber V L → Bool) : Roster (s.dismiss p) := by
  have hleft : left (s.dismiss p).trace =
      left s.trace ++ (s.subscribers.filter p).map (·.handle) := by
    simp [left, Function.comp_def]
  refine ⟨?_, ?_⟩
  · unfold Store.handles
    rw [Store.subscribers_dismiss, map_filter_not hs.nodup, hleft]
    show s.handles.filter _ = _
    rw [hs.handles, List.filter_filter]
    apply List.filter_congr
    intro h _
    rw [← Bool.decide_and]
    apply decide_eq_decide.mpr
    rw [List.mem_append, not_or, and_comm]
  · intro h hh
    rw [hleft, List.mem_append] at hh
    rcases hh with hh | hh
    · exact hs.left_lt h hh
    · obtain ⟨x, hx, rfl⟩ := List.mem_map.mp hh
      exact (hs.mem_handles.mp (List.mem_map.mpr ⟨x, (List.mem_filter.mp hx).1, rfl⟩)).1

theorem join (hs : Roster s) (label : String) (l : Listener V L) : Roster (s.join label l) := by
  have hleft : left (s.join label l).trace = left s.trace := by
    simp [left, List.filterMap_cons]
  refine ⟨?_, ?_⟩
  · have hnew : s.nextHandle ∉ left s.trace := fun h => Nat.lt_irrefl _ (hs.left_lt _ h)
    rw [Store.handles_join, hs.handles, hleft]
    show _ = (List.range (s.nextHandle + 1)).filter _
    rw [List.range_succ, List.filter_append, List.filter_cons_of_pos (by simpa using hnew)]
    rfl
  · rw [hleft]
    intro h hh
    exact Nat.lt_succ_of_lt (hs.left_lt h hh)

theorem aside (hs : Roster s) (h : Aside s t) : Roster t := by
  cases h with
  | queue as => exact hs.keep (Store.trace_queue s as) (by simp [left, Function.comp_def]) rfl rfl
  | note entries =>
    exact hs.keep (Store.trace_note s entries) (by simp [left, Function.comp_def]) rfl rfl
  | drop mount label => exact hs.dismiss _

theorem asides (hs : Roster s) (h : Store.Asides s t) : Roster t :=
  h.preserve (fun _ _ h hs => hs.aside h) hs

theorem wrote (hs : Roster s) (h : Nat) (ws : List Write) :
    Roster (s.record (ws.map (.wrote h))) :=
  hs.keep (Store.trace_record s _) (by simp [left, Function.comp_def]) rfl rfl

theorem advance (hs : Roster s) (o : Origin) (a : Action) : Roster (s.advance o a) :=
  hs.keep (Store.trace_advance s o a) (left_action o a _) (Store.handles_advance s o a) rfl

theorem update (hs : Roster s) (h : Nat) (f : Listener V L → Listener V L) :
    Roster (s.update h f) :=
  hs.keep (d := []) (by simp) rfl (Store.handles_update s h f) rfl

variable [DeepLinker L]

theorem edit (hs : Roster s) (label text : String) : Roster (s.edit label text) :=
  hs.keep (d := []) (by simp) rfl (Store.handles_edit s label text) rfl

variable [DecidableEq V]

theorem tick {m m' : Moment V L} (hm : Roster m.store) (h : Tick m m') : Roster m'.store := by
  cases h with
  | aside due h => exact hm.aside h
  | pass s h due current => exact hm
  | hear s h due label project last reactions listens changed =>
    exact (hm.update h _).keep (Store.trace_record _ _) rfl rfl rfl
  | write s h due sync last listens changed =>
    exact ((hm.update h _).aside (.note _ _)).wrote h _
  | take s a rest waits =>
    have hdequeued : Roster (s.dequeued rest) := hm.keep (d := []) (by simp) rfl rfl rfl
    exact hdequeued.advance .queued a

theorem step {m m' : Moment V L} (hm : Roster m.store) (h : Step m m') : Roster m'.store := by
  cases h with
  | tick h => exact hm.tick h
  | greet s label v => exact hm.keep (Store.trace_record _ _) rfl rfl rfl
  | greetMount s ws => exact hm.wrote s.nextHandle ws
  | join s label l => exact hm.join label l
  | introduce s mount label h free => exact hm.keep (d := []) (by simp) rfl (Store.handles_introduce s mount label h) rfl

end Roster

variable [DeepLinker L] [DecidableEq V]

theorem roster_run {s : Store V L} (hs : Roster s) (ops : List (StoreOp V L)) : Roster (s.run ops) :=
  Store.run_induction (P := fun m => Roster m.store) (fun _ _ h hm => hm.step h)
    (fun _ a hs => hs.advance .dispatched a) (fun _ label text hs => hs.edit label text) hs ops

end TabShell

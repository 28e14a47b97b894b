import TabShell.Proofs.Store.Roster
/-!
# Places in a cycle

Subscribers are told in the order in which they came, whoever leaves meanwhile.

* `lately`        those who were told something since the last action;
* `ToldInOrder`   at every moment of a trace they had been told in order;
* `InTurn`        whoever was told lately comes before those who are still to be told, which every
                  step keeps.
-/

namespace TabShell

variable {V L : Type}

def Happening.told? : Happening V → Option Nat
  | delivered h _ _ | wrote h _ => some h
  | _ => none

/-- those who are told something, in order -/
def told (t : List (Happening V)) : List Nat := t.filterMap Happening.told?

/-- those who were told something since the last action, once one thing more happens -/
def tellOne (hs : List Nat) : Happening V → List Nat
  | .processed _ _ => []
  | .delivered h _ _ | .wrote h _ => hs ++ [h]
  | _ => hs

/-- those who were told something since the last action -/
def lately (t : List (Happening V)) : List Nat := t.foldl tellOne []

theorem lately_append {e : List (Happening V)} (he : processed e = []) (t : List (Happening V)) :
    lately (t ++ e) = lately t ++ told e := by
  unfold lately
  rw [List.foldl_append]
  generalize t.foldl tellOne [] = hs
  induction e generalizing hs with
  | nil => exact (List.append_nil hs).symm
  | cons x e ih =>
    cases x with
    | processed o a => cases he
    | delivered h label v => exact (ih he _).trans (List.append_assoc ..)
    | wrote h w => exact (ih he _).trans (List.append_assoc ..)
    | _ => exact ih he hs

theorem lately_action (t : List (Happening V)) (o : Origin) (a : Action) :
    lately (t ++ [.processed o a]) = [] := by
  unfold lately
  rw [List.foldl_append]
  rfl

/-- at every moment of a trace, those who were told something since the last action had been told
in the order in which they came -/
def ToldInOrder (t : List (Happening V)) : Prop := ∀ p, p <+: t → (lately p).Pairwise (· ≤ ·)

namespace ToldInOrder

variable {t : List (Happening V)}

theorem append (ht : ToldInOrder t) {e : List (Happening V)} (he : processed e = [])
    (htold : (lately t ++ told e).Pairwise (· ≤ ·)) : ToldInOrder (t ++ e) := by
  rintro p ⟨r, hsplit⟩
  rcases List.append_eq_append_iff.mp hsplit with ⟨c, htrace, -⟩ | ⟨c, rfl, rfl⟩
  · exact ht p ⟨c, htrace.symm⟩
  · rw [processed_append, List.append_eq_nil_iff] at he
    rw [lately_append he.1]
    refine htold.sublist (List.Sublist.append_left ?_ _)
    exact ((List.prefix_append c r).filterMap _).sublist

theorem action (ht : ToldInOrder t) (o : Origin) (a : Action) (es : List Effect) :
    ToldInOrder (t ++ .processed o a :: es.map .effect) ∧
      lately (t ++ .processed o a :: es.map .effect) = [] := by
  have htold : told (es.map (.effect : Effect → Happening V)) = [] := by
    simp [told, Happening.told?, Function.comp_def]
  have hprocessed : processed (es.map (.effect : Effect → Happening V)) = [] := by
    simp [processed, Function.comp_def]
  have hfirst : ToldInOrder (t ++ [.processed o a]) := by
    intro p hp
    rcases List.prefix_concat_iff.mp hp with rfl | hp
    · rw [lately_action]
      exact .nil
    · exact ht p hp
  rw [List.append_cons]
  refine ⟨hfirst.append hprocessed ?_, ?_⟩
  · rw [lately_action, htold]
    exact .nil
  · rw [lately_append hprocessed, lately_action, htold]
    rfl

end ToldInOrder

/-- since the last action subscribers were told in the order in which they came, and so will be
those who are still to be told -/
structure InTurn (m : Moment V L) : Prop where
  ordered : ToldInOrder m.store.trace
  due_sorted : m.due.Pairwise (· < ·)
  due_lt : ∀ j ∈ m.due, j < m.store.nextHandle
  told_le : ∀ h ∈ lately m.store.trace, h ≤ m.store.nextHandle ∧ ∀ j ∈ m.due, h < j

theorem Roster.handles_sorted {s : Store V L} (hs : Roster s) : s.handles.Pairwise (· < ·) := by
  rw [hs.handles]
  exact List.Pairwise.filter _ List.pairwise_lt_range

namespace InTurn

variable {m m' : Moment V L}

theorem keep (hm : InTurn m) {e : List (Happening V)} (htrace : m'.store.trace = m.store.trace ++ e)
    (he : processed e = []) (htold : told e = []) (hdue : m'.due = m.due)
    (hnext : m.store.nextHandle ≤ m'.store.nextHandle) : InTurn m' := by
  have hlately : lately m'.store.trace = lately m.store.trace := by
    rw [htrace, lately_append he, htold, List.append_nil]
  refine ⟨?_, hdue ▸ hm.due_sorted, ?_, ?_⟩
  · rw [htrace]
    refine hm.ordered.append he ?_
    rw [htold, List.append_nil]
    exact hm.ordered _ List.prefix_rfl
  · rw [hdue]
    exact fun j hj => Nat.lt_of_lt_of_le (hm.due_lt j hj) hnext
  · rw [hlately, hdue]
    exact fun h hh => ⟨Nat.le_trans (hm.told_le h hh).1 hnext, (hm.told_le h hh).2⟩

/-- a subscriber is told, who comes after those who were told lately and before those who are
still to be told -/
theorem tell (hm : InTurn m) {h : Nat} {e : List (Happening V)}
    (htrace : m'.store.trace = m.store.trace ++ e) (he : processed e = [])
    (htold : ∀ j ∈ told e, j = h) (hafter : ∀ j ∈ lately m.store.trace, j ≤ h)
    (hh : h ≤ m.store.nextHandle) (hbefore : ∀ j ∈ m'.due, h < j)
    (hdue : m'.due <:+ m.due) (hnext : m'.store.nextHandle = m.store.nextHandle) : InTurn m' := by
  have hsorted : (lately m.store.trace ++ told e).Pairwise (· ≤ ·) := by
    refine List.pairwise_append.mpr ⟨hm.ordered _ List.prefix_rfl, ?_, ?_⟩
    · refine List.pairwise_iff_forall_sublist.mpr fun {i j} hij => ?_
      have hi : i = h := htold i (hij.subset (List.mem_cons_self ..))
      have hj : j = h := htold j (hij.subset (List.mem_cons_of_mem _ (List.mem_singleton_self j)))
      exact Nat.le_of_eq (hi.trans hj.symm)
    · intro i hi j hj
      rw [htold j hj]
      exact hafter i hi
  refine ⟨?_, hm.due_sorted.sublist hdue.sublist, ?_, ?_⟩
  · rw [htrace]
    exact hm.ordered.append he hsorted
  · rw [hnext]
    exact fun j hj => hm.due_lt j (hdue.subset hj)
  · rw [htrace, lately_append he, hnext]
    intro i hi
    rcases List.mem_append.mp hi with hi | hi
    · exact ⟨(hm.told_le i hi).1, fun j hj => (hm.told_le i hi).2 j (hdue.subset hj)⟩
    · rw [htold i hi]
      exact ⟨hh, hbefore⟩

theorem advance {s : Store V L} (hs : InTurn ⟨s, []⟩) (hroster : Roster s) (o : Origin)
    (a : Action) : InTurn ⟨s.advance o a, s.handles⟩ := by
  obtain ⟨htold, hnone⟩ := hs.ordered.action o a (transitionEffects s.observers s.state a)
  refine ⟨htold, hroster.handles_sorted, fun j hj => (hroster.mem_handles.mp hj).1, ?_⟩
  show ∀ h ∈ lately (s.trace ++ _), _
  rw [hnone]
  nofun

theorem aside {s t : Store V L} {due : List Nat} (hm : InTurn ⟨s, due⟩) (h : Aside s t) :
    InTurn ⟨t, due⟩ := by
  cases h with
  | queue as =>
    exact hm.keep (Store.trace_queue s as) (by simp [processed, Function.comp_def])
      (by simp [told, Happening.told?, Function.comp_def]) rfl (Nat.le_refl _)
  | note entries =>
    exact hm.keep (Store.trace_note s entries) (by simp [processed, Function.comp_def])
      (by simp [told, Happening.told?, Function.comp_def]) rfl (Nat.le_refl _)
  | drop mount label =>
    exact hm.keep (Store.trace_dismiss s _) (by simp [processed, Function.comp_def])
      (by simp [told, Happening.told?, Function.comp_def]) rfl (Nat.le_refl _)

theorem new (state : State) (observers : List Observer) :
    InTurn ⟨(Store.new state observers : Store V L), []⟩ := by
  refine ⟨fun p hp => ?_, .nil, nofun, nofun⟩
  rw [List.prefix_nil.mp hp]
  exact .nil

/-- who is due comes after those who were told lately and before the others who are due -/
theorem turn {s t : Store V L} {h : Nat} {due : List Nat} (hm : InTurn ⟨s, h :: due⟩)
    {e : List (Happening V)} (htrace : t.trace = s.trace ++ e) (he : processed e = [])
    (htold : ∀ j ∈ told e, j = h) (hnext : t.nextHandle = s.nextHandle) :
    InTurn ⟨t, due⟩ :=
  hm.tell htrace he htold (fun j hj => Nat.le_of_lt ((hm.told_le j hj).2 h (List.mem_cons_self ..)))
    (Nat.le_of_lt (hm.due_lt h (List.mem_cons_self ..))) (List.pairwise_cons.mp hm.due_sorted).1
    (List.suffix_cons h due) hnext

/-- who is greeted comes after all others -/
theorem greet {s t : Store V L} (hs : InTurn ⟨s, []⟩) {e : List (Happening V)}
    (htrace : t.trace = s.trace ++ e) (he : processed e = [])
    (htold : ∀ j ∈ told e, j = s.nextHandle) (hnext : t.nextHandle = s.nextHandle) :
    InTurn ⟨t, []⟩ :=
  hs.tell htrace he htold (fun j hj => (hs.told_le j hj).1) (Nat.le_refl _) nofun
    List.suffix_rfl hnext

variable [DeepLinker L]

theorem edit {s : Store V L} (hs : InTurn ⟨s, []⟩) (label text : String) :
    InTurn ⟨s.edit label text, []⟩ :=
  hs.keep (e := []) (by simp) rfl rfl rfl (Nat.le_refl _)

variable [DecidableEq V]

theorem step (hm : InTurn m) (hroster : Roster m.store) (h : Step m m') : InTurn m' := by
  cases h with
  | tick h =>
    cases h with
    | aside due h => exact hm.aside h
    | pass s h due current => exact hm.turn (e := []) (List.append_nil _).symm rfl nofun rfl
    | hear s h due label project last reactions listens changed =>
      exact hm.turn (Store.trace_record _ _) rfl (fun j hj => List.mem_singleton.mp hj) rfl
    | write s h due sync last listens changed =>
      refine hm.turn (e := _ ++ _) (List.append_assoc ..) ?_ ?_ rfl
      · simp [processed, Function.comp_def]
      · simp [told, Happening.told?]
    | take s a rest waits =>
      have hdequeued : InTurn ⟨s.dequeued rest, []⟩ :=
        hm.keep (e := []) (List.append_nil _).symm rfl rfl rfl (Nat.le_refl _)
      exact hdequeued.advance (hroster.keep (d := []) (by simp) rfl rfl rfl) .queued a
  | greet s label v =>
    exact hm.greet (Store.trace_record _ _) rfl (fun j hj => List.mem_singleton.mp hj) rfl
  | greetMount s ws =>
    refine hm.greet (Store.trace_record _ _) ?_ ?_ rfl
    · simp [processed, Function.comp_def]
    · simp [told, Happening.told?]
  | join s label l =>
    exact hm.keep (Store.trace_join s label l) rfl rfl rfl (Nat.le_succ _)
  | introduce s mount label h free => exact hm.keep (e := []) (by simp) rfl rfl rfl (Nat.le_refl _)

end InTurn

end TabShell

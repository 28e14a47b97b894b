import TabShell.Store.Run
/-!
# Who listens under a handle

Handles name subscribers for good: they are given once and never change.

* `Store.handles`     the handles of those who listen, in the order of registration;
* `Store.listener?`   who listens under a handle, and what the operations of a store do to that.
-/

namespace TabShell

variable {V L : Type}

theorem map_handle_updateFirst (h : Nat) (f : Listener V L → Listener V L)
    (xs : List (Subscriber V L)) :
    (updateFirst h (Subscriber.relisten f) xs).map (·.handle) = xs.map (·.handle) := by
  induction xs with
  | nil => rfl
  | cons x xs ih =>
    unfold updateFirst
    split
    · rfl
    · rw [List.map_cons, ih, List.map_cons]

theorem find?_updateFirst_self (h : Nat) (f : Listener V L → Listener V L)
    (xs : List (Subscriber V L)) :
    (updateFirst h (Subscriber.relisten f) xs).find? (fun x => decide (x.handle = h)) =
      (xs.find? fun x => decide (x.handle = h)).map (Subscriber.relisten f) := by
  induction xs with
  | nil => rfl
  | cons x xs ih =>
    unfold updateFirst
    by_cases hx : x.handle = h
    · simp [hx, Subscriber.relisten]
    · simp [hx, ih]

theorem find?_updateFirst_of_ne {h k : Nat} (hne : k ≠ h) (f : Listener V L → Listener V L)
    (xs : List (Subscriber V L)) :
    (updateFirst h (Subscriber.relisten f) xs).find? (fun x => decide (x.handle = k)) =
      xs.find? fun x => decide (x.handle = k) := by
  induction xs with
  | nil => rfl
  | cons x xs ih =>
    unfold updateFirst
    by_cases hx : x.handle = h
    · simp [hx, Subscriber.relisten, Ne.symm hne]
    · simp [hx, List.find?_cons, ih]

theorem find?_filter_of_find? {α : Type} {p q : α → Bool} {x : α} {xs : List α}
    (hx : xs.find? q = some x) (hp : p x = true) : (xs.filter p).find? q = some x := by
  induction xs with
  | nil => cases hx
  | cons y ys ih =>
    by_cases hq : q y = true
    · rw [List.find?_cons_of_pos hq] at hx
      cases hx
      rw [List.filter_cons_of_pos hp, List.find?_cons_of_pos hq]
    · rw [List.find?_cons_of_neg hq] at hx
      by_cases hy : p y = true
      · rw [List.filter_cons_of_pos hy, List.find?_cons_of_neg hq, ih hx]
      · rw [List.filter_cons_of_neg hy, ih hx]

namespace Store

/-- the handles of those who listen, in the order of registration -/
def handles (s : Store V L) : List Nat := s.subscribers.map (·.handle)

/-- who listens under a handle -/
def listener? (s : Store V L) (h : Nat) : Option (Listener V L) :=
  (s.subscribers.find? fun x => decide (x.handle = h)).map (·.listener)

theorem listener?_eq_none {s : Store V L} {h : Nat} : s.listener? h = none ↔ h ∉ s.handles := by
  simp [listener?, handles]

theorem mem_handles_of_listener? {s : Store V L} {h : Nat} {l : Listener V L}
    (hl : s.listener? h = some l) : h ∈ s.handles := by
  apply Decidable.byContradiction
  intro hn
  rw [listener?_eq_none.mpr hn] at hl
  cases hl

/-! ## operations that tell or change nobody -/

@[simp] theorem listener?_record (s : Store V L) (hs : List (Happening V)) (h : Nat) :
    (s.record hs).listener? h = s.listener? h := rfl

@[simp] theorem listener?_note (s : Store V L) (entries : List LogEntry) (h : Nat) :
    (s.note entries).listener? h = s.listener? h := rfl

/-! ## operations on subscribers -/

@[simp] theorem handles_update (s : Store V L) (h : Nat) (f : Listener V L → Listener V L) :
    (s.update h f).handles = s.handles := by
  unfold handles
  rw [subscribers_update, map_handle_updateFirst]

theorem listener?_update_self (s : Store V L) (h : Nat) (f : Listener V L → Listener V L) :
    (s.update h f).listener? h = (s.listener? h).map f := by
  unfold listener?
  rw [subscribers_update, find?_updateFirst_self]
  cases s.subscribers.find? fun x => decide (x.handle = h) <;> rfl

theorem listener?_update_of_ne {h k : Nat} (hne : k ≠ h) (s : Store V L)
    (f : Listener V L → Listener V L) : (s.update h f).listener? k = s.listener? k := by
  unfold listener?
  rw [subscribers_update, find?_updateFirst_of_ne hne]

/-- those who stay listen as before -/
theorem listener?_dismiss {s : Store V L} {h : Nat} {l : Listener V L}
    (hl : s.listener? h = some l) (p : Subscriber V L → Bool) :
    (s.dismiss p).listener? h = some l ∨ h ∈ (s.subscribers.filter p).map (·.handle) := by
  obtain ⟨x, hx, rfl⟩ := Option.map_eq_some_iff.mp hl
  by_cases hp : p x = true
  · right
    have hmem := List.mem_of_find?_eq_some hx
    have hh : x.handle = h := by simpa using List.find?_some hx
    exact List.mem_map.mpr ⟨x, List.mem_filter.mpr ⟨hmem, hp⟩, hh⟩
  · left
    unfold listener?
    rw [subscribers_dismiss, find?_filter_of_find? hx (by simpa using hp)]
    rfl

@[simp] theorem handles_join (s : Store V L) (label : String) (l : Listener V L) :
    (s.join label l).handles = s.handles ++ [s.nextHandle] := by
  simp [handles]

theorem listener?_join_of_ne {s : Store V L} {h : Nat} (hne : h ≠ s.nextHandle) (label : String)
    (l : Listener V L) : (s.join label l).listener? h = s.listener? h := by
  simp [listener?, List.find?_append, Ne.symm hne]

theorem listener?_join_self {s : Store V L} (hfresh : s.nextHandle ∉ s.handles) (label : String)
    (l : Listener V L) : (s.join label l).listener? s.nextHandle = some l := by
  have hnone := Option.map_eq_none_iff.mp (listener?_eq_none.mpr hfresh)
  simp [listener?, List.find?_append, hnone]

theorem subscribers_introduce (s : Store V L) (mount : Bool) (label : String) (h : Nat) :
    (s.introduce mount label h).subscribers =
      s.subscribers.map (Subscriber.introduced mount label h) :=
  subscribers_alter s _

theorem handle_introduced (mount : Bool) (label : String) (h : Nat) (x : Subscriber V L) :
    (x.introduced mount label h).handle = x.handle := by
  unfold Subscriber.introduced
  split <;> rfl

theorem listener_introduced (mount : Bool) (label : String) (h : Nat) (x : Subscriber V L) :
    (x.introduced mount label h).listener = x.listener := by
  unfold Subscriber.introduced
  split <;> rfl

@[simp] theorem handles_introduce (s : Store V L) (mount : Bool) (label : String) (h : Nat) :
    (s.introduce mount label h).handles = s.handles := by
  simp [handles, subscribers_introduce, Function.comp_def, handle_introduced]

@[simp] theorem listener?_introduce (s : Store V L) (mount : Bool) (label : String) (h k : Nat) :
    (s.introduce mount label h).listener? k = s.listener? k := by
  simp [listener?, subscribers_introduce, List.find?_map, Function.comp_def, handle_introduced,
    listener_introduced]

/-- who is not active is not told anything, and can be forgotten -/
@[simp] theorem handles_advance (s : Store V L) (o : Origin) (a : Action) :
    (s.advance o a).handles = s.handles := by
  unfold handles
  rw [subscribers_advance]

@[simp] theorem listener?_advance (s : Store V L) (o : Origin) (a : Action) (h : Nat) :
    (s.advance o a).listener? h = s.listener? h := by
  unfold listener?
  rw [subscribers_advance]

variable [DeepLinker L]

theorem subscribers_edit (s : Store V L) (label text : String) :
    (s.edit label text).subscribers = s.subscribers.map (Subscriber.edited label text) :=
  subscribers_alter s _

@[simp] theorem handle_edited (label text : String) (x : Subscriber V L) :
    (x.edited label text).handle = x.handle := by
  unfold Subscriber.edited
  split <;> rfl

@[simp] theorem handles_edit (s : Store V L) (label text : String) :
    (s.edit label text).handles = s.handles := by
  simp [handles, subscribers_edit, Function.comp_def]

theorem listener?_edit (s : Store V L) (label text : String) (h : Nat) :
    (s.edit label text).listener? h =
      (s.subscribers.find? fun x => decide (x.handle = h)).map fun x =>
        (x.edited label text).listener := by
  simp [listener?, subscribers_edit, List.find?_map, Function.comp_def]

/-- edits change mounts only -/
theorem listener?_edit_subscription {s : Store V L} {h : Nat} {project : State → V} {last : V}
    {reactions : List (Reaction V)}
    (hl : s.listener? h = some (.subscription project last reactions)) (label text : String) :
    (s.edit label text).listener? h = some (.subscription project last reactions) := by
  obtain ⟨x, hx, hlistener⟩ := Option.map_eq_some_iff.mp hl
  have hno : x.isMount label = false := by
    simp [Subscriber.isMount, Subscriber.isNamed, Subscriber.isCalled, hlistener, Listener.isMount]
  rw [listener?_edit, hx]
  simp [Subscriber.edited, hno, hlistener]

/-- and of those only the linker -/
theorem listener?_edit_mount {s : Store V L} {h : Nat} {sync : Synchronizer L}
    {last : Option String × Bool} (hl : s.listener? h = some (.mount sync last))
    (label text : String) :
    (s.edit label text).listener? h = some (.mount sync last) ∨
      (s.edit label text).listener? h = some (.mount (sync.edit text) last) := by
  obtain ⟨x, hx, hlistener⟩ := Option.map_eq_some_iff.mp hl
  rw [listener?_edit, hx]
  by_cases hlabel : x.isMount label = true
  · exact .inr (by simp [Subscriber.edited, Subscriber.relisten, hlabel, hlistener])
  · exact .inl (by simp [Subscriber.edited, Subscriber.relisten, hlabel, hlistener])

end Store

end TabShell

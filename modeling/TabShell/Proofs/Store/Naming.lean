import Mathlib.Data.List.Find
import Mathlib.Data.List.Nodup
import TabShell.Proofs.Store.Roster
/-!
# How subscribers are named

A subscriber is named by its label once the call that made it has returned, and an older one of
that label goes then.  Mounts and subscriptions are named apart.  While actions are processed nobody
gets a name, and nobody is dropped who has none.

* `Tag`, `Store.tags`   what subscribers are called;
* `Ticks.tags_subset`, `Ticks.unknown_mem`   tags only go, and only those that have a name;
* `Sole`                the subscriber of a handle is the only one that a label names, until it
                        leaves;
* `bears_select`, `bears_mount`, `Sole.step`   the calls that make it so, and the steps, which keep
                        it;
* `Bears.left_apply`    the calls that drop whoever bears a name;
* `Deed.drops`, `entries_react`   who is dropped by deeds;
* `Bears.mem_left_react`   and when that is the subscriber of a handle.
-/

namespace TabShell

variable {V L : Type}

/-- a handle, a label, whether others know it, and whether a mount bears it -/
structure Tag where
  handle : Nat
  label : String
  known : Bool
  mount : Bool

/-- whether a tag is that of a mount or subscription called so -/
def Tag.isCalled (mount : Bool) (label : String) (t : Tag) : Bool :=
  decide (t.label = label) && (t.mount == mount)

/-- and whether others can name it so -/
def Tag.names (mount : Bool) (label : String) (t : Tag) : Bool := t.known && t.isCalled mount label

/-- what a subscriber is called -/
def Subscriber.tag (x : Subscriber V L) : Tag := ⟨x.handle, x.label, x.known, x.listener.isMount⟩

/-- a tag of a handle, if it is called so, that others know -/
def Tag.introduced (mount : Bool) (label : String) (h : Nat) (t : Tag) : Tag :=
  if t.handle = h ∧ t.isCalled mount label then { t with known := true } else t

theorem tag_introduced (mount : Bool) (label : String) (h : Nat) (x : Subscriber V L) :
    (x.introduced mount label h).tag = x.tag.introduced mount label h := by
  unfold Subscriber.introduced Tag.introduced
  by_cases hx : x.handle = h ∧ x.isCalled mount label = true
  · rw [if_pos hx, if_pos (show x.tag.handle = h ∧ x.tag.isCalled mount label = true from hx)]
    rfl
  · rw [if_neg hx, if_neg (show ¬(x.tag.handle = h ∧ x.tag.isCalled mount label = true) from hx)]

theorem Tag.handle_introduced (mount : Bool) (label : String) (h : Nat) (t : Tag) :
    (t.introduced mount label h).handle = t.handle := by
  unfold introduced
  split <;> rfl

/-- who is introduced gets no other name -/
theorem Tag.names_introduced {mount mount' : Bool} {label label' : String}
    (hne : ¬(mount' = mount ∧ label' = label)) (h : Nat) (t : Tag) :
    (t.introduced mount' label' h).names mount label = t.names mount label := by
  unfold introduced
  split
  · next hcalled =>
    have hother : t.isCalled mount label = false := by
      rw [Bool.eq_false_iff]
      intro hsame
      simp only [isCalled, Bool.and_eq_true, decide_eq_true_eq, beq_iff_eq] at hcalled hsame
      exact hne ⟨hcalled.2.2.symm.trans hsame.2, hcalled.2.1.symm.trans hsame.1⟩
    show (true && t.isCalled mount label) = (t.known && t.isCalled mount label)
    rw [hother, Bool.and_false, Bool.and_false]
  · rfl

theorem tag_updateFirst {h : Nat} {f : Listener V L → Listener V L} {xs : List (Subscriber V L)}
    {x : Subscriber V L} (hx : xs.find? (fun x => decide (x.handle = h)) = some x)
    (hf : (f x.listener).isMount = x.listener.isMount) :
    (updateFirst h (Subscriber.relisten f) xs).map Subscriber.tag = xs.map Subscriber.tag := by
  induction xs with
  | nil => rfl
  | cons y ys ih =>
    unfold updateFirst
    by_cases hy : y.handle = h
    · rw [List.find?_cons_of_pos (by simpa using hy)] at hx
      cases hx
      rw [if_pos hy, List.map_cons, List.map_cons]
      unfold Subscriber.tag Subscriber.relisten
      rw [hf]
    · rw [List.find?_cons_of_neg (by simpa using hy)] at hx
      rw [if_neg hy, List.map_cons, ih hx, List.map_cons]

namespace Store

/-- what those who listen are called -/
def tags (s : Store V L) : List Tag := s.subscribers.map Subscriber.tag

theorem mem_handles_iff {s : Store V L} {h : Nat} : h ∈ s.handles ↔ ∃ t ∈ s.tags, t.handle = h := by
  have hmap : s.handles = s.tags.map (·.handle) := by
    simp [handles, tags, Subscriber.tag]
  rw [hmap, List.mem_map]

theorem tags_update {s : Store V L} {h : Nat} {f : Listener V L → Listener V L} {l : Listener V L}
    (hl : s.listener? h = some l) (hf : (f l).isMount = l.isMount) :
    (s.update h f).tags = s.tags := by
  obtain ⟨x, hx, rfl⟩ := Option.map_eq_some_iff.mp hl
  unfold tags
  rw [subscribers_update, tag_updateFirst hx hf]

theorem tags_drop (s : Store V L) (mount : Bool) (label : String) :
    (s.dismiss (·.isNamed mount label)).tags = s.tags.filter fun t => !t.names mount label := by
  unfold tags
  rw [subscribers_dismiss, List.filter_map]
  rfl

theorem tags_advance (s : Store V L) (o : Origin) (a : Action) : (s.advance o a).tags = s.tags := by
  unfold tags
  rw [subscribers_advance]

theorem tags_join (s : Store V L) (label : String) (l : Listener V L) :
    (s.join label l).tags = s.tags ++ [⟨s.nextHandle, label, false, l.isMount⟩] := by
  simp [tags, Subscriber.tag]

theorem tags_introduce (s : Store V L) (mount : Bool) (label : String) (h : Nat) :
    (s.introduce mount label h).tags = s.tags.map (Tag.introduced mount label h) := by
  simp only [tags, subscribers_introduce, List.map_map]
  exact List.map_congr_left fun x _ => tag_introduced mount label h x

end Store

section
variable [DeepLinker L]

theorem Store.tags_edit (s : Store V L) (label text : String) :
    (s.edit label text).tags = s.tags := by
  simp only [Store.tags, Store.subscribers_edit, List.map_map]
  apply List.map_congr_left
  intro x _
  obtain ⟨handle, name, known, listener⟩ := x
  simp only [Function.comp_apply, Subscriber.edited]
  split
  · cases listener <;> rfl
  · rfl

variable [DecidableEq V] {m m' : Moment V L}

/-- nobody is called otherwise by a tick, and who is not called any more was dropped by a name -/
theorem Tick.tags (h : Tick m m') : m'.store.tags = m.store.tags ∨
    ∃ mount label, m'.store.tags = m.store.tags.filter fun t => !t.names mount label := by
  cases h with
  | aside due h =>
    cases h with
    | queue as => exact .inl rfl
    | note entries => exact .inl rfl
    | drop mount label => exact .inr ⟨mount, label, Store.tags_drop _ mount label⟩
  | pass s h due current => exact .inl rfl
  | hear s h due label project last reactions listens changed =>
    exact .inl (Store.tags_update (f := fun _ => .subscription project (project s.state)
      (reactions.map (Reaction.spend (project s.state)))) listens rfl)
  | write s h due sync last listens changed =>
    exact .inl (Store.tags_update (f := fun _ => .mount (sync.storeChanged s.state.link.1
      s.state.link.2).sync s.state.link) listens rfl)
  | take s a rest waits => exact .inl (Store.tags_advance (s.dequeued rest) .queued a)

theorem Tick.tags_subset (h : Tick m m') : m'.store.tags ⊆ m.store.tags := by
  rcases h.tags with htags | ⟨mount, label, htags⟩
  · rw [htags]
    exact List.Subset.refl _
  · rw [htags]
    exact List.filter_sublist.subset

theorem Store.Ticks.tags_subset (h : Store.Ticks m m') : m'.store.tags ⊆ m.store.tags :=
  h.preserve (P := fun x => x.store.tags ⊆ m.store.tags)
    (fun _ _ hx hm => List.Subset.trans hx.tags_subset hm) (List.Subset.refl _)

/-- who has no name is not dropped -/
theorem Store.Ticks.unknown_mem (h : Store.Ticks m m') {t : Tag} (hunknown : t.known = false)
    (ht : t ∈ m.store.tags) : t ∈ m'.store.tags := by
  refine h.preserve (P := fun x => t ∈ x.store.tags) (fun x y hxy hx => ?_) ht
  rcases hxy.tags with htags | ⟨mount, label, htags⟩
  · rw [htags]
    exact hx
  · rw [htags]
    exact List.mem_filter.mpr ⟨hx, by simp [Tag.names, hunknown]⟩

theorem Step.left_subset (h : Step m m') : left m.store.trace ⊆ left m'.store.trace := by
  obtain ⟨d, hd⟩ := h.trace_prefix
  rw [← hd, left_append]
  exact List.subset_append_left _ _

theorem Store.Steps.left_subset (h : Store.Steps m m') : left m.store.trace ⊆ left m'.store.trace :=
  h.preserve (P := fun x => left m.store.trace ⊆ left x.store.trace)
    (fun _ _ hx hm => List.Subset.trans hm hx.left_subset) (List.Subset.refl _)

end

/-! ## the only one of a name -/

/-- until it leaves, the mount, or else the subscription, of a handle is the only one that a label
names -/
def Sole (mount : Bool) (k : Nat) (label : String) (s : Store V L) : Prop :=
  k ∉ left s.trace → ∀ t ∈ s.tags, t.names mount label = decide (t.handle = k)

namespace Sole

variable {mount : Bool} {k : Nat} {label : String} {s u : Store V L}

theorem keep (hs : Sole mount k label s) (hleft : left s.trace ⊆ left u.trace)
    (htags : u.tags ⊆ s.tags) : Sole mount k label u :=
  fun hk t ht => hs (fun h => hk (hleft h)) t (htags ht)

theorem isNamed_eq (hs : Sole mount k label s) (hk : k ∉ left s.trace) {x : Subscriber V L}
    (hx : x ∈ s.subscribers) : x.isNamed mount label = decide (x.handle = k) :=
  hs hk x.tag (List.mem_map_of_mem hx)

theorem isNamed_of_find? (hs : Sole mount k label s) (hk : k ∉ left s.trace) {x : Subscriber V L}
    (hx : s.subscribers.find? (fun x => decide (x.handle = k)) = some x) :
    x.isNamed mount label = true := by
  have hhandle := List.find?_some hx
  exact (hs.isNamed_eq hk (List.mem_of_find?_eq_some hx)).trans hhandle

/-- who is looked up by the label is found by the handle -/
theorem mounted? (hs : Sole true k label s) (hk : k ∉ left s.trace) :
    s.mounted? label = (s.listener? k).bind (·.sync?) := by
  have hsame : ∀ x ∈ s.subscribers, x.isMount label = decide (x.handle = k) :=
    fun _ hx => hs.isNamed_eq hk hx
  unfold Store.mounted? Store.listener?
  rw [List.find?_congr hsame]
  cases s.subscribers.find? fun x => decide (x.handle = k) <;> rfl

/-- who has come and not left is there -/
theorem exists_tag (hs : Sole mount k label s) (hroster : Roster s) (hcame : k < s.nextHandle)
    (hk : k ∉ left s.trace) : ∃ t ∈ s.tags, t.handle = k ∧ t.names mount label = true := by
  obtain ⟨t, ht, hhandle⟩ := Store.mem_handles_iff.mp (hroster.mem_handles.mpr ⟨hcame, hk⟩)
  exact ⟨t, ht, hhandle, (hs hk t ht).trans (decide_eq_true hhandle)⟩

theorem join (hs : Sole mount k label s) (hcame : k < s.nextHandle) (name : String)
    (l : Listener V L) : Sole mount k label (s.join name l) := by
  intro hk t ht
  have hleft : left (s.join name l).trace = left s.trace := by
    simp [left, List.filterMap_cons]
  rw [hleft] at hk
  rw [Store.tags_join] at ht
  rcases List.mem_append.mp ht with ht | ht
  · exact hs hk t ht
  · rw [List.mem_singleton.mp ht]
    simp [Tag.names, hcame.ne']

/-- nobody else is introduced by the name, for it is not free -/
theorem introduce (hs : Sole mount k label s) (hroster : Roster s) (hcame : k < s.nextHandle)
    {mount' : Bool} {name : String} (hfree : ∀ x ∈ s.subscribers, x.isNamed mount' name = false)
    (h : Nat) : Sole mount k label (s.introduce mount' name h) := by
  intro hk t ht
  have hne : ¬(mount' = mount ∧ name = label) := by
    rintro ⟨rfl, rfl⟩
    obtain ⟨u, hu, -, hnames⟩ := hs.exists_tag hroster hcame hk
    obtain ⟨x, hx, rfl⟩ := List.mem_map.mp hu
    exact Bool.false_ne_true ((hfree x hx).symm.trans hnames)
  rw [Store.tags_introduce] at ht
  obtain ⟨old, hold, rfl⟩ := List.mem_map.mp ht
  rw [Tag.names_introduced hne, Tag.handle_introduced]
  exact hs hk old hold

/-- when its name is dropped, it leaves -/
theorem left_drop (hs : Sole mount k label s) (hroster : Roster s) (hcame : k < s.nextHandle) :
    k ∈ left (s.dismiss (·.isNamed mount label)).trace := by
  rw [Store.trace_dismiss, left_append, left_lefts, List.mem_append]
  by_cases hk : k ∈ left s.trace
  · exact .inl hk
  · obtain ⟨t, ht, hhandle, hnames⟩ := hs.exists_tag hroster hcame hk
    obtain ⟨x, hx, rfl⟩ := List.mem_map.mp ht
    exact .inr (List.mem_map.mpr ⟨x, List.mem_filter.mpr ⟨hx, hnames⟩, hhandle⟩)

theorem advance (hs : Sole mount k label s) (o : Origin) (a : Action) :
    Sole mount k label (s.advance o a) := by
  unfold Sole
  rw [Store.left_advance, Store.tags_advance]
  exact hs

variable [DeepLinker L]

theorem edit (hs : Sole mount k label s) (name text : String) :
    Sole mount k label (s.edit name text) := by
  unfold Sole
  rw [Store.trace_edit, Store.tags_edit]
  exact hs

variable [DecidableEq V] {m m' : Moment V L}

/-- every step leaves it the only one, or drives it out -/
theorem step (hs : Sole mount k label m.store) (hroster : Roster m.store)
    (hcame : k < m.store.nextHandle) (h : Step m m') : Sole mount k label m'.store := by
  have hleft := h.left_subset
  cases h with
  | tick h => exact hs.keep hleft h.tags_subset
  | greet s name v => exact hs.keep hleft (List.Subset.refl _)
  | greetMount s ws => exact hs.keep hleft (List.Subset.refl _)
  | join s name l => exact hs.join hcame name l
  | introduce s mount' name h free => exact hs.introduce hroster hcame free h

end Sole

/-- the subscriber of a handle has come, and until it leaves it is the only one that a label names -/
structure Bears (mount : Bool) (k : Nat) (label : String) (s : Store V L) : Prop where
  roster : Roster s
  came : k < s.nextHandle
  sole : Sole mount k label s

namespace Bears

variable {mount : Bool} {k : Nat} {label : String} {s : Store V L}

theorem left_drop (hs : Bears mount k label s) :
    k ∈ left (s.dismiss (·.isNamed mount label)).trace :=
  hs.sole.left_drop hs.roster hs.came

variable [DeepLinker L] [DecidableEq V]

theorem reached {m m' : Moment V L} (hm : Bears mount k label m.store) (h : Reached m m') :
    Bears mount k label m'.store :=
  h.preserve (P := fun m => Bears mount k label m.store)
    (fun _ _ h hm => ⟨hm.roster.step h, hm.came.trans_le h.nextHandle_le,
      hm.sole.step hm.roster hm.came h⟩)
    (fun _ a hs => ⟨hs.roster.advance .dispatched a, hs.came, hs.sole.advance .dispatched a⟩)
    (fun _ name text hs => ⟨hs.roster.edit name text, hs.came, hs.sole.edit name text⟩) hm

theorem apply (hs : Bears mount k label s) (op : StoreOp V L) : Bears mount k label (s.apply op) :=
  hs.reached (reached_apply s op)

end Bears

/-! ## who gets a name -/

/-- once a new subscriber is introduced, the others are called as they were -/
theorem mem_tags_introduce {s u : Store V L} (hs : Roster s) {mount : Bool} {label : String}
    (hu : u.tags ⊆ s.tags ++ [⟨s.nextHandle, label, false, mount⟩]) {t : Tag}
    (ht : t ∈ (u.introduce mount label s.nextHandle).tags) :
    t ∈ s.tags ∧ t ∈ u.tags ∨ t = ⟨s.nextHandle, label, true, mount⟩ := by
  rw [Store.tags_introduce] at ht
  obtain ⟨old, hold, rfl⟩ := List.mem_map.mp ht
  unfold Tag.introduced
  rcases List.mem_append.mp (hu hold) with hmem | hmem
  · have hne : old.handle ≠ s.nextHandle := by
      intro h
      exact hs.fresh (Store.mem_handles_iff.mpr ⟨old, hmem, h⟩)
    rw [if_neg fun h => hne h.1]
    exact .inl ⟨hmem, hold⟩
  · right
    rw [List.mem_singleton.mp hmem]
    simp [Tag.isCalled]

/-- a subscriber that has just been introduced by a free name is the only one of that name -/
theorem sole_introduce {s u : Store V L} (hs : Roster s) {mount : Bool} {label : String}
    (hu : u.tags ⊆ s.tags ++ [⟨s.nextHandle, label, false, mount⟩])
    (hfree : ∀ x ∈ u.subscribers, x.isNamed mount label = false) :
    Sole mount s.nextHandle label (u.introduce mount label s.nextHandle) := by
  intro _ t ht
  rcases mem_tags_introduce hs hu ht with ⟨hold, hu⟩ | rfl
  · have hne : t.handle ≠ s.nextHandle := by
      intro h
      exact hs.fresh (Store.mem_handles_iff.mpr ⟨t, hold, h⟩)
    obtain ⟨x, hx, rfl⟩ := List.mem_map.mp hu
    rw [decide_eq_false hne]
    exact hfree x hx
  · simp [Tag.names, Tag.isCalled]

/-- whether a call takes a label from the mount, or else the subscription, that bears it -/
def StoreOp.frees (mount : Bool) (label : String) : StoreOp V L → Bool
  | .unsubscribe name | .select name _ _ => !mount && decide (name = label)
  | .unmount name | .mount name _ => mount && decide (name = label)
  | _ => false

section
variable [DeepLinker L] [DecidableEq V] {s : Store V L}

/-- who is called what when a new subscriber has joined and all that waited is done -/
theorem tags_settled {v w : Store V L} (hv : v.tags ⊆ s.tags) (hnext : v.nextHandle = s.nextHandle)
    (name : String) (l : Listener V L) (hw : Store.Ticks ⟨v.join name l, []⟩ ⟨w, []⟩) :
    w.tags ⊆ s.tags ++ [⟨s.nextHandle, name, false, l.isMount⟩] := by
  have hjoin : (v.join name l).tags ⊆ s.tags ++ [⟨s.nextHandle, name, false, l.isMount⟩] := by
    rw [Store.tags_join, hnext]
    exact List.append_subset.mpr
      ⟨List.subset_append_of_subset_left _ hv, List.subset_append_right _ _⟩
  exact List.Subset.trans hw.tags_subset hjoin

/-- who has joined stays while all that waited is done -/
theorem mem_handles_settled {v w : Store V L} (name : String) (l : Listener V L)
    (hw : Store.Ticks ⟨v.join name l, []⟩ ⟨w, []⟩) : v.nextHandle ∈ w.handles := by
  have hjoined : ⟨v.nextHandle, name, false, l.isMount⟩ ∈ (v.join name l).tags := by
    rw [Store.tags_join]
    exact List.mem_append_right _ (List.mem_singleton_self _)
  exact Store.mem_handles_iff.mpr ⟨_, hw.unknown_mem rfl hjoined, rfl⟩

theorem tags_select_settled (s : Store V L) (label : String) (project : State → V)
    (reactions : List (Reaction V)) :
    (((s.deliver s.nextHandle label (project s.state) reactions).join label
      (.subscription project (project s.state)
        (reactions.map (Reaction.spend (project s.state))))).drain.unsubscribe label).tags ⊆
      s.tags ++ [⟨s.nextHandle, label, false, false⟩] := by
  have hasides := Store.asides_deliver s s.nextHandle label (project s.state) reactions
  exact tags_settled (hasides.ticks []).tags_subset hasides.nextHandle_eq label
    (.subscription project (project s.state) (reactions.map (Reaction.spend (project s.state))))
    (Store.ticks_select_joined _ label)

theorem tags_mount_settled (s : Store V L) (label : String) (sync : Synchronizer L) :
    (((s.greeted sync).join label (.mount (sync.storeChanged s.state.link.1 s.state.link.2).sync
      s.state.link)).drain.unmount label).tags ⊆
      s.tags ++ [⟨s.nextHandle, label, false, true⟩] := by
  have hgreeted : (s.greeted sync).tags ⊆ s.tags := List.Subset.refl s.tags
  exact tags_settled hgreeted rfl label
    (.mount (sync.storeChanged s.state.link.1 s.state.link.2).sync s.state.link)
    (Store.ticks_mount_joined _ label)

theorem mem_tags_select (hs : Roster s) {name : String} {project : State → V}
    {reactions : List (Reaction V)} {t : Tag} (ht : t ∈ (s.select name project reactions).tags) :
    t ∈ s.tags ∨ t = ⟨s.nextHandle, name, true, false⟩ :=
  (mem_tags_introduce hs (tags_select_settled s name project reactions) ht).imp And.left id

theorem mem_tags_mount (hs : Roster s) {name : String} {sync : Synchronizer L} {t : Tag}
    (ht : t ∈ (s.mount name sync).tags) :
    t ∈ s.tags ∨ t = ⟨s.nextHandle, name, true, true⟩ :=
  (mem_tags_introduce hs (tags_mount_settled s name sync) ht).imp And.left id

/-- a subscription that has just been made is there -/
theorem mem_handles_select (s : Store V L) (label : String) (project : State → V)
    (reactions : List (Reaction V)) : s.nextHandle ∈ (s.select label project reactions).handles := by
  have hasides := Store.asides_deliver s s.nextHandle label (project s.state) reactions
  have hnext : (s.deliver s.nextHandle label (project s.state) reactions).nextHandle =
      s.nextHandle := hasides.nextHandle_eq
  have hmem := mem_handles_settled (v := s.deliver s.nextHandle label (project s.state) reactions)
    label (.subscription project (project s.state) (reactions.map (Reaction.spend
      (project s.state)))) (Store.ticks_select_joined _ label)
  rw [hnext] at hmem
  unfold Store.select
  rw [Store.handles_introduce]
  exact hmem

/-- and so is a mount -/
theorem mem_handles_mount (s : Store V L) (label : String) (sync : Synchronizer L) :
    s.nextHandle ∈ (s.mount label sync).handles := by
  rw [Store.mount_eq, Store.handles_introduce]
  exact mem_handles_settled (v := s.greeted sync) label _ (Store.ticks_mount_joined _ label)

/-- a subscription that has just been made is the only one that its label names -/
theorem bears_select (hs : Roster s) (label : String) (project : State → V)
    (reactions : List (Reaction V)) :
    Bears false s.nextHandle label (s.select label project reactions) := by
  have hroster := roster_run hs [.select label project reactions]
  exact ⟨hroster, (hroster.mem_handles.mp (mem_handles_select s label project reactions)).1,
    sole_introduce hs (tags_select_settled s label project reactions)
      fun _ hx => Store.isNamed_of_mem_dismiss hx⟩

/-- a mount that has just been made is the only one that its label names -/
theorem bears_mount (hs : Roster s) (label : String) (sync : Synchronizer L) :
    Bears true s.nextHandle label (s.mount label sync) := by
  have hroster := roster_run hs [.mount label sync]
  exact ⟨hroster, (hroster.mem_handles.mp (mem_handles_mount s label sync)).1,
    sole_introduce hs (tags_mount_settled s label sync)
      fun _ hx => Store.isNamed_of_mem_dismiss hx⟩

end

/-- a call that takes the label from its bearer drops it -/
theorem Bears.left_apply [DeepLinker L] [DecidableEq V] {mount : Bool} {k : Nat} {label : String}
    {s : Store V L} (hs : Bears mount k label s) {op : StoreOp V L}
    (hop : op.frees mount label = true) : k ∈ left (s.apply op).trace := by
  cases op with
  | unsubscribe name =>
    simp only [StoreOp.frees, Bool.and_eq_true, Bool.not_eq_true', decide_eq_true_eq] at hop
    obtain ⟨rfl, rfl⟩ := hop
    exact hs.left_drop
  | select name project reactions =>
    simp only [StoreOp.frees, Bool.and_eq_true, Bool.not_eq_true', decide_eq_true_eq] at hop
    obtain ⟨rfl, rfl⟩ := hop
    have hsteps : Store.Steps _ _ := (Store.steps_select_opened s name project reactions).trans
      (Store.ticks_drain _).steps
    have hdrained : Bears false k name _ := Bears.reached (m := ⟨s, []⟩) hs hsteps.reached
    exact hdrained.left_drop
  | unmount name =>
    simp only [StoreOp.frees, Bool.and_eq_true, decide_eq_true_eq] at hop
    obtain ⟨rfl, rfl⟩ := hop
    exact hs.left_drop
  | mount name sync =>
    simp only [StoreOp.frees, Bool.and_eq_true, decide_eq_true_eq] at hop
    obtain ⟨rfl, rfl⟩ := hop
    have hsteps : Store.Steps _ _ := (Store.steps_mount_opened s name sync).trans
      (Store.ticks_drain _).steps
    have hdrained : Bears true k name _ := Bears.reached (m := ⟨s, []⟩) hs hsteps.reached
    exact hdrained.left_drop
  | dispatch a | queue as | drain | edit name text | linkChanged name | nothing => cases hop

/-! ## who is dropped -/

/-- whether a deed drops a subscriber -/
def Deed.drops : Deed → Subscriber V L → Bool
  | unsubscribe label => (·.isSubscription label)
  | unmount label => (·.isMount label)
  | queue _ | linkChanged _ => fun _ => false

/-- the deed that drops what others can name so -/
def Deed.drop (mount : Bool) (label : String) : Deed :=
  if mount then unmount label else unsubscribe label

theorem Entry.map_drop_false (es : List (Entry V L)) : es.map (drop fun _ => false) = es :=
  List.map_id es

theorem Entry.drop_drop (p q : Subscriber V L → Bool) (e : Entry V L) :
    drop q (drop p e) = drop (fun x => p x || q x) e := by
  unfold drop
  cases hp : p e.subscriber <;> cases hq : q e.subscriber <;> simp [hp, hq]

section
variable [DeepLinker L]

theorem Store.entries_linkChanged (s : Store V L) (label : String) :
    (s.linkChanged label).entries = s.entries := by
  unfold Store.linkChanged
  split <;> rfl

theorem Store.entries_act (s : Store V L) (d : Deed) :
    (s.act d).entries = s.entries.map (Entry.drop d.drops) := by
  cases d with
  | queue a => exact (Entry.map_drop_false s.entries).symm
  | unsubscribe label => rfl
  | linkChanged label =>
    exact (s.entries_linkChanged label).trans (Entry.map_drop_false s.entries).symm
  | unmount label => rfl

/-- deeds take the flags of those whom they name down, and do no more to entries -/
theorem Store.entries_react (s : Store V L) (ds : List Deed) :
    (s.react ds).entries = s.entries.map (Entry.drop fun x => ds.any (Deed.drops · x)) := by
  induction ds generalizing s with
  | nil => exact (Entry.map_drop_false s.entries).symm
  | cons d ds ih =>
    refine (ih (s.act d)).trans ?_
    rw [entries_act, List.map_map]
    exact List.map_congr_left fun e _ => Entry.drop_drop d.drops _ e

/-- those who are named go, and the others stay as they are and where they are -/
theorem Store.subscribers_react (s : Store V L) (ds : List Deed) :
    (s.react ds).subscribers = s.subscribers.filter fun x => !ds.any (Deed.drops · x) := by
  unfold subscribers
  rw [entries_react, Entry.live_drop]

end

theorem Roster.mem_left_iff {s t : Store V L} (hs : Roster s) (ht : Roster t)
    {p : Subscriber V L → Bool} (hp : t.subscribers = s.subscribers.filter fun x => !p x)
    (hnext : t.nextHandle = s.nextHandle) {x : Subscriber V L} (hx : x ∈ s.subscribers) :
    x.handle ∈ left t.trace ↔ p x = true := by
  have hcame : x.handle < t.nextHandle :=
    hnext ▸ (hs.mem_handles.mp (List.mem_map_of_mem hx)).1
  have hhere : x.handle ∈ t.handles ↔ p x = false := by
    unfold Store.handles
    rw [hp]
    constructor
    · intro hmem
      obtain ⟨y, hy, hyx⟩ := List.mem_map.mp hmem
      obtain ⟨hy, hpy⟩ := List.mem_filter.mp hy
      rw [← List.inj_on_of_nodup_map hs.nodup hy hx hyx]
      exact Bool.not_eq_true' _ ▸ hpy
    · intro hpx
      exact List.mem_map.mpr ⟨x, List.mem_filter.mpr ⟨hx, by rw [hpx]; rfl⟩, rfl⟩
  rw [ht.mem_handles] at hhere
  constructor
  · intro hleft
    rw [← Bool.not_eq_false, ← hhere]
    exact fun h => h.2 hleft
  · intro hpx
    by_contra hleft
    exact Bool.false_ne_true ((hhere.mp ⟨hcame, hleft⟩).symm.trans hpx)

/-- who is named so is dropped by that name, and by no other -/
theorem Deed.drops_iff {mount : Bool} {label : String} {x : Subscriber V L}
    (hx : x.isNamed mount label = true) (d : Deed) :
    d.drops x = true ↔ d = Deed.drop mount label := by
  simp only [Subscriber.isNamed, Subscriber.isCalled, Bool.and_eq_true, decide_eq_true_eq,
    beq_iff_eq] at hx
  obtain ⟨hknown, hlabel, hmount⟩ := hx
  cases d with
  | queue a => cases mount <;> simp [drops, drop]
  | linkChanged name => cases mount <;> simp [drops, drop]
  | unsubscribe name =>
    cases mount <;>
      simp [drops, drop, Subscriber.isSubscription, Subscriber.isNamed, Subscriber.isCalled, hknown,
        hlabel, hmount, eq_comm]
  | unmount name =>
    cases mount <;>
      simp [drops, drop, Subscriber.isMount, Subscriber.isNamed, Subscriber.isCalled, hknown,
        hlabel, hmount, eq_comm]

/-- who bears a name leaves when that name is dropped, and not before -/
theorem Bears.mem_left_react [DeepLinker L] {mount : Bool} {k : Nat} {label : String}
    {s : Store V L} (hs : Bears mount k label s) (ds : List Deed) :
    k ∈ left (s.react ds).trace ↔ k ∈ left s.trace ∨ Deed.drop mount label ∈ ds := by
  have hasides := Store.asides_react s ds
  by_cases hk : k ∈ left s.trace
  · have hstays : k ∈ left (s.react ds).trace :=
      hasides.preserve (P := fun u => k ∈ left u.trace)
        (fun u v huv hu => by cases huv <;> simp [hu]) hk
    exact iff_of_true hstays (.inl hk)
  · obtain ⟨t, ht, hhandle, hnames⟩ := hs.sole.exists_tag hs.roster hs.came hk
    obtain ⟨x, hx, rfl⟩ := List.mem_map.mp ht
    have hleft := hs.roster.mem_left_iff (hs.roster.asides hasides) (s.subscribers_react ds)
      hasides.nextHandle_eq hx
    rw [← hhandle, or_iff_right (hhandle.symm ▸ hk)]
    refine hleft.trans (List.any_eq_true.trans ⟨?_, fun h => ?_⟩)
    · rintro ⟨d, hd, hdrops⟩
      exact (Deed.drops_iff hnames d).mp hdrops ▸ hd
    · exact ⟨_, h, (Deed.drops_iff hnames _).mpr rfl⟩

end TabShell

import TabShell.Proofs.Store.Naming
/-!
# Entries and their flags

A subscriber that is dropped leaves its entry behind, with the flag down, until the next action.

* `Flagged`                     entries stand in the order in which their subscribers came, and the
                                flags that are up are those of subscribers who have not left;
* `Flagged.step`                every step keeps that;
* `Dropped`                     from one store to another subscribers are dropped, and no more;
* `dropped_dismiss`, `dropped_react`   calls and reactions that drop somebody;
* `mem_left_notify`             who is dropped when a subscriber is told of the state.
-/

namespace TabShell

variable {V L : Type}

/-- the handle of an entry, and its flag -/
def Entry.mark (e : Entry V L) : Nat × Bool := (e.subscriber.handle, e.active)

theorem Entry.mark_update (h : Nat) (f : Listener V L → Listener V L) (es : List (Entry V L)) :
    (update h (Subscriber.relisten f) es).map mark = es.map mark := by
  induction es with
  | nil => rfl
  | cons e es ih =>
    unfold update
    split
    · unfold alter
      split <;> rfl
    · rw [List.map_cons, ih, List.map_cons]

theorem Entry.mark_alter {f : Subscriber V L → Subscriber V L}
    (hf : ∀ x, (f x).handle = x.handle) (es : List (Entry V L)) :
    (es.map (alter f)).map mark = es.map mark := by
  rw [List.map_map]
  refine List.map_congr_left fun e _ => ?_
  simp only [Function.comp_apply, alter]
  split
  · unfold mark
    rw [hf]
  · rfl

namespace Store

def marks (s : Store V L) : List (Nat × Bool) := s.entries.map Entry.mark

theorem mem_subscribers {s : Store V L} {x : Subscriber V L} :
    x ∈ s.subscribers ↔ ∃ e ∈ s.entries, e.active = true ∧ e.subscriber = x := by
  unfold subscribers Entry.live
  rw [List.mem_map]
  refine exists_congr fun e => ?_
  rw [List.mem_filter, and_assoc]

end Store

/-- entries stand in the order of their handles, and flags are up until the handle is dropped -/
structure Flagged (s : Store V L) : Prop where
  sorted : s.marks.Pairwise fun m n => m.1 < n.1
  lt : ∀ m ∈ s.marks, m.1 < s.nextHandle
  active : ∀ m ∈ s.marks, m.2 = true ↔ m.1 ∉ left s.trace

namespace Flagged

variable {s t : Store V L}

theorem new (state : State) (observers : List Observer) :
    Flagged (Store.new state observers : Store V L) :=
  ⟨.nil, nofun, nofun⟩

theorem keep (hs : Flagged s) (hmarks : t.marks = s.marks) (hleft : left t.trace = left s.trace)
    (hnext : t.nextHandle = s.nextHandle) : Flagged t := by
  refine ⟨?_, ?_, ?_⟩
  · rw [hmarks]
    exact hs.sorted
  · rw [hmarks, hnext]
    exact hs.lt
  · rw [hmarks, hleft]
    exact hs.active

/-- nobody has two entries -/
theorem eq_of_handle (hs : Flagged s) {d e : Entry V L} (hd : d ∈ s.entries) (he : e ∈ s.entries)
    (hhandle : d.subscriber.handle = e.subscriber.handle) : d = e := by
  have hnodup : (s.entries.map (·.subscriber.handle)).Nodup :=
    List.pairwise_map.mpr ((List.pairwise_map.mp hs.sorted).imp Nat.ne_of_lt)
  exact List.inj_on_of_nodup_map hnodup hd he hhandle

theorem dismiss (hs : Flagged s) (p : Subscriber V L → Bool) : Flagged (s.dismiss p) := by
  have hhandle : ∀ e : Entry V L, (e.drop p).subscriber = e.subscriber := by
    intro e
    unfold Entry.drop
    split <;> rfl
  have hmarks : (s.dismiss p).marks = s.entries.map fun e => (e.drop p).mark := List.map_map
  refine ⟨?_, ?_, ?_⟩
  · rw [hmarks, List.pairwise_map]
    refine (List.pairwise_map.mp hs.sorted).imp fun {d e} hlt => ?_
    unfold Entry.mark
    rw [hhandle, hhandle]
    exact hlt
  · intro m hm
    obtain ⟨e, he, rfl⟩ := List.mem_map.mp (hmarks ▸ hm)
    show (e.drop p).subscriber.handle < s.nextHandle
    rw [hhandle]
    exact hs.lt _ (List.mem_map_of_mem he)
  · intro m hm
    obtain ⟨e, he, rfl⟩ := List.mem_map.mp (hmarks ▸ hm)
    have hactive : e.active = true ↔ e.subscriber.handle ∉ left s.trace :=
      hs.active _ (List.mem_map_of_mem he)
    -- the entry is one of those that are dropped if its handle is
    have hdropped : e.active = true →
        (e.subscriber.handle ∈ (s.subscribers.filter p).map (·.handle) ↔
          p e.subscriber = true) := by
      intro hlive
      constructor
      · intro hmem
        obtain ⟨x, hx, hxe⟩ := List.mem_map.mp hmem
        obtain ⟨hx, hp⟩ := List.mem_filter.mp hx
        obtain ⟨d, hd, -, rfl⟩ := Store.mem_subscribers.mp hx
        rwa [← hs.eq_of_handle hd he hxe]
      · intro hp
        have hmem := Store.mem_subscribers.mpr ⟨e, he, hlive, rfl⟩
        exact List.mem_map_of_mem (List.mem_filter.mpr ⟨hmem, hp⟩)
    show (e.drop p).active = true ↔ (e.drop p).subscriber.handle ∉ left (s.dismiss p).trace
    rw [hhandle, Store.trace_dismiss, left_append, left_lefts, List.mem_append, not_or, ← hactive]
    unfold Entry.drop
    cases hp : p e.subscriber with
    | true =>
      refine iff_of_false (fun h => Bool.false_ne_true h) fun h => ?_
      exact h.2 ((hdropped h.1).mpr hp)
    | false =>
      refine ⟨fun h => ⟨h, fun hmem => ?_⟩, And.left⟩
      exact Bool.false_ne_true (hp.symm.trans ((hdropped h).mp hmem))

theorem aside (hs : Flagged s) (h : Aside s t) : Flagged t := by
  cases h with
  | queue as => exact hs.keep rfl (by simp [left, Function.comp_def]) rfl
  | note entries => exact hs.keep rfl (by simp [left, Function.comp_def]) rfl
  | drop mount label => exact hs.dismiss _

theorem join (hs : Flagged s) (hroster : Roster s) (label : String) (l : Listener V L) :
    Flagged (s.join label l) := by
  have hmarks : (s.join label l).marks = s.marks ++ [(s.nextHandle, true)] := List.map_append
  have hleft : left (s.join label l).trace = left s.trace := by
    simp [left, List.filterMap_cons]
  refine ⟨?_, ?_, ?_⟩
  · rw [hmarks, List.pairwise_append]
    refine ⟨hs.sorted, List.pairwise_singleton _ _, fun m hm n hn => ?_⟩
    rw [List.mem_singleton.mp hn]
    exact hs.lt m hm
  · intro m hm
    rw [hmarks, List.mem_append] at hm
    rcases hm with hm | hm
    · exact Nat.lt_succ_of_lt (hs.lt m hm)
    · rw [List.mem_singleton.mp hm]
      exact Nat.lt_succ_self _
  · intro m hm
    rw [hmarks, List.mem_append] at hm
    rw [hleft]
    rcases hm with hm | hm
    · exact hs.active m hm
    · rw [List.mem_singleton.mp hm]
      exact iff_of_true rfl fun h => Nat.lt_irrefl _ (hroster.left_lt _ h)

/-- entries whose flags are down are forgotten -/
theorem advance (hs : Flagged s) (o : Origin) (a : Action) : Flagged (s.advance o a) := by
  have hsub : (s.advance o a).marks.Sublist s.marks := List.filter_sublist.map _
  refine ⟨hs.sorted.sublist hsub, fun m hm => hs.lt m (hsub.subset hm), ?_⟩
  rw [Store.left_advance]
  exact fun m hm => hs.active m (hsub.subset hm)

theorem update (hs : Flagged s) (h : Nat) (f : Listener V L → Listener V L) :
    Flagged (s.update h f) :=
  hs.keep (Entry.mark_update h f s.entries) rfl rfl

variable [DeepLinker L]

theorem edit (hs : Flagged s) (label text : String) : Flagged (s.edit label text) :=
  hs.keep (Entry.mark_alter (Store.handle_edited label text) s.entries) rfl rfl

variable [DecidableEq V]

theorem step {m m' : Moment V L} (hm : Flagged m.store) (hroster : Roster m.store)
    (h : Step m m') : Flagged m'.store := by
  cases h with
  | tick h =>
    cases h with
    | aside due h => exact hm.aside h
    | pass s h due current => exact hm
    | hear s h due label project last reactions listens changed =>
      exact (hm.update h _).keep rfl (by simp [left, Happening.left?]) rfl
    | write s h due sync last listens changed =>
      have hnote := (hm.update h fun _ => .mount (sync.storeChanged s.state.link.1
        s.state.link.2).sync s.state.link).aside
          (.note _ (sync.storeChanged s.state.link.1 s.state.link.2).entries)
      exact hnote.keep rfl (by simp [left, Function.comp_def]) rfl
    | take s a rest waits =>
      have hdequeued : Flagged (s.dequeued rest) := hm.keep rfl rfl rfl
      exact hdequeued.advance .queued a
  | greet s label v => exact hm.keep rfl (by simp [left, Happening.left?]) rfl
  | greetMount s ws => exact hm.keep rfl (by simp [left, Function.comp_def]) rfl
  | join s label l => exact hm.join hroster label l
  | introduce s mount label h free =>
    exact hm.keep (Entry.mark_alter (Store.handle_introduced mount label h) s.entries) rfl rfl

end Flagged

/-! ## who is dropped -/

/-- from one store to another some subscribers are dropped -/
structure Dropped (p : Subscriber V L → Bool) (s t : Store V L) : Prop where
  /-- their flags are taken down, and that is all that happens to entries -/
  entries : t.entries = s.entries.map (Entry.drop p)
  /-- the others listen as before, in the same order -/
  others : t.subscribers = s.subscribers.filter fun x => !p x
  /-- they have left, and the others have not -/
  left : ∀ x ∈ s.subscribers, x.handle ∈ left t.trace ↔ p x = true
  /-- they do not count any more -/
  count : t.subscriberCount + (s.subscribers.filter p).length = s.subscriberCount

theorem Dropped.of_entries {s t : Store V L} (hs : Roster s) (ht : Roster t)
    {p : Subscriber V L → Bool} (hentries : t.entries = s.entries.map (Entry.drop p))
    (hnext : t.nextHandle = s.nextHandle) : Dropped p s t := by
  have hothers : t.subscribers = s.subscribers.filter fun x => !p x := by
    unfold Store.subscribers
    rw [hentries, Entry.live_drop]
  refine ⟨hentries, hothers, fun x hx => hs.mem_left_iff ht hothers hnext hx, ?_⟩
  rw [Store.subscriberCount_eq, Store.subscriberCount_eq, hothers, Nat.add_comm]
  exact (List.length_eq_length_filter_add p).symm

theorem dropped_dismiss {s : Store V L} (hs : Roster s) (p : Subscriber V L → Bool) :
    Dropped p s (s.dismiss p) :=
  .of_entries hs (hs.dismiss p) rfl rfl

theorem dropped_react [DeepLinker L] {s : Store V L} (hs : Roster s) (ds : List Deed) :
    Dropped (fun x => ds.any (Deed.drops · x)) s (s.react ds) :=
  .of_entries hs (hs.asides (s.asides_react ds)) (s.entries_react ds)
    (s.asides_react ds).nextHandle_eq

section
variable [DeepLinker L] [DecidableEq V]

/-- being told something changes no tags -/
theorem tags_told (s : Store V L) (h : Nat) : (s.told h).tags = s.tags := by
  unfold Store.told
  cases hx : s.subscribers.find? fun x => decide (x.handle = h) with
  | none => rfl
  | some x =>
    have hl : s.listener? h = some x.listener := by simp [Store.listener?, hx]
    obtain ⟨handle, label, known, listener⟩ := x
    cases listener with
    | subscription project last reactions =>
      simp only
      split
      · rfl
      · exact Store.tags_update hl rfl
    | mount sync last =>
      simp only
      split
      · rfl
      · exact Store.tags_update hl rfl

/-- who leaves when a subscriber is told of the state: those whom its reactions drop -/
theorem mem_left_notify {s : Store V L} (hs : Roster s) (h : Nat) {x : Subscriber V L}
    (hx : x ∈ s.subscribers) :
    x.handle ∈ left (s.notify h).trace ↔ (s.deedsBy h).any (Deed.drops · x) = true := by
  have htags := tags_told s h
  have hroster : Roster (s.told h) := hs.tick (Store.tick_told s h [])
  have hmem : x.tag ∈ (s.told h).tags := by
    rw [htags]
    exact List.mem_map_of_mem hx
  obtain ⟨y, hy, htag⟩ := List.mem_map.mp hmem
  have hhandle : y.handle = x.handle := congrArg Tag.handle htag
  have hdrops : ∀ d : Deed, d.drops y = d.drops x := by
    intro d
    cases d with
    | queue a | linkChanged label => rfl
    | unsubscribe label => exact congrArg (Tag.names false label) htag
    | unmount label => exact congrArg (Tag.names true label) htag
  rw [Store.notify_eq_react, ← hhandle, (dropped_react hroster (s.deedsBy h)).left y hy]
  simp only [hdrops]

end

end TabShell

import TabShell.Proofs.Store.Flags
import TabShell.Proofs.Store.Heard
import TabShell.Proofs.Store.Places
/-!
# Who leaves

A subscriber that is dropped leaves at once, wherever the store is at that moment, and the others
keep their places.

* `Absent`           a piece of a trace in which a subscriber has no part;
* `Orderly`          a store whose subscribers came in order and have no part in anything after
                     they left;
* `Present`          who is there, and the entries that the store keeps of them;
* `Named`            how a subscriber that comes can be dropped from then on;
* `leaving_run`      what leaving is at every moment of a run.
-/

namespace TabShell

variable {V L : Type}

/-- the subscriber that something is about -/
def Happening.handle? : Happening V → Option Nat
  | delivered h _ _ | wrote h _ | joined h | left h => some h
  | _ => none

@[simp] theorem joined_append (t u : List (Happening V)) : joined (t ++ u) = joined t ++ joined u :=
  List.filterMap_append

/-! ## having no part -/

/-- nothing is about the subscriber of a handle -/
def Absent (k : Nat) (t : List (Happening V)) : Prop := ∀ x ∈ t, x.handle? ≠ some k

namespace Absent

variable {k : Nat} {t : List (Happening V)}

theorem heard_eq (h : Absent k t) : heard k t = [] := by
  refine List.filterMap_eq_nil_iff.mpr fun x hx => ?_
  cases x with
  | delivered j label v =>
    have hne : j ≠ k := fun e => h _ hx (congrArg some e)
    exact if_neg hne
  | _ => rfl

theorem writes_eq (h : Absent k t) : writes k t = [] := by
  refine List.filterMap_eq_nil_iff.mpr fun x hx => ?_
  cases x with
  | wrote j w =>
    have hne : j ≠ k := fun e => h _ hx (congrArg some e)
    exact if_neg hne
  | _ => rfl

theorem notMem_left (h : Absent k t) : k ∉ left t := fun hk => h _ (mem_left.mp hk) rfl

theorem of_forall (h : ∀ x ∈ t, x.handle? = none) : Absent k t := by
  intro x hx hk
  cases (h x hx).symm.trans hk

end Absent

/-- those who are dismissed together leave once each -/
theorem absent_of_lefts {xs : List (Subscriber V L)} (hxs : (xs.map (·.handle)).Nodup) {k : Nat}
    {q r : List (Happening V)} (hsplit : xs.map (fun x => .left x.handle) = q ++ .left k :: r) :
    Absent k r := by
  rw [← left_lefts, hsplit, left_append] at hxs
  have hrest : k ∉ left r := (List.nodup_cons.mp hxs.of_append_right).1
  intro x hx hxk
  have hmem : x ∈ xs.map fun x => (.left x.handle : Happening V) :=
    hsplit ▸ List.mem_append_right q (List.mem_cons_of_mem _ hx)
  obtain ⟨y, -, rfl⟩ := List.mem_map.mp hmem
  cases hxk
  exact hrest (mem_left.mpr hx)

theorem handle?_queued (as : List Action) :
    ∀ x ∈ as.map (.queued : Action → Happening V), x.handle? = none := by
  intro x hx
  obtain ⟨a, -, rfl⟩ := List.mem_map.mp hx
  rfl

theorem handle?_note (entries : List LogEntry) :
    ∀ x ∈ entries.map fun e => (.effect (.note e) : Happening V), x.handle? = none := by
  intro x hx
  obtain ⟨e, -, rfl⟩ := List.mem_map.mp hx
  rfl

theorem handle?_action (o : Origin) (a : Action) (es : List Effect) :
    ∀ x ∈ .processed o a :: es.map (.effect : Effect → Happening V), x.handle? = none := by
  intro x hx
  rcases List.mem_cons.mp hx with rfl | hx
  · rfl
  · obtain ⟨e, -, rfl⟩ := List.mem_map.mp hx
    rfl

/-- those who listen came in the order of their handles, and who has left has no part in what
follows -/
structure Orderly (s : Store V L) : Prop where
  roster : Roster s
  came : joined s.trace = List.range s.nextHandle
  after : ∀ k p q, s.trace = p ++ .left k :: q → k ∈ joined p ∧ Absent k q

namespace Orderly

variable {s t : Store V L}

theorem new (state : State) (observers : List Observer) :
    Orderly (Store.new state observers : Store V L) := by
  refine ⟨Roster.new state observers, rfl, fun k p q h => ?_⟩
  cases List.append_eq_nil_iff.mp h.symm with
  | intro _ hcons => cases hcons

/-- something more happens, in which nobody has a part who has left -/
theorem after_append (hs : Orderly s) {d : List (Happening V)}
    (hgone : ∀ k ∈ left s.trace, Absent k d)
    (hd : ∀ k p q, d = p ++ .left k :: q → k ∈ joined s.trace ∧ Absent k q) :
    ∀ k p q, s.trace ++ d = p ++ .left k :: q → k ∈ joined p ∧ Absent k q := by
  intro k p q h
  rcases List.append_eq_append_iff.mp h with ⟨p', rfl, hsplit⟩ | ⟨c, hsplit, hrest⟩
  · obtain ⟨hjoined, hq⟩ := hd k p' q hsplit
    rw [joined_append, List.mem_append]
    exact ⟨.inl hjoined, hq⟩
  · rcases List.cons_eq_append_iff.mp hrest with ⟨rfl, hsplit'⟩ | ⟨q', rfl, rfl⟩
    · rw [List.append_nil] at hsplit
      rw [← hsplit]
      exact hd k [] q hsplit'
    · obtain ⟨hjoined, hq'⟩ := hs.after k p q' hsplit
      refine ⟨hjoined, List.forall_mem_append.mpr ⟨hq', hgone k ?_⟩⟩
      rw [hsplit]
      exact mem_left_of_split rfl

theorem keep (hs : Orderly s) (ht : Roster t) {d : List (Happening V)}
    (htrace : t.trace = s.trace ++ d) (hnext : t.nextHandle = s.nextHandle)
    (hd : ∀ x ∈ d, x.joined? = none ∧ x.left? = none)
    (hgone : ∀ k ∈ left s.trace, Absent k d) : Orderly t := by
  have hjoined : joined d = [] := List.filterMap_eq_nil_iff.mpr fun x hx => (hd x hx).1
  have hleft : left d = [] := List.filterMap_eq_nil_iff.mpr fun x hx => (hd x hx).2
  refine ⟨ht, ?_, ?_⟩
  · rw [htrace, joined_append, hjoined, List.append_nil, hnext, hs.came]
  · rw [htrace]
    refine hs.after_append hgone fun k p q hsplit => ?_
    have hmem := mem_left_of_split hsplit
    rw [hleft] at hmem
    cases hmem

theorem idle (hs : Orderly s) (ht : Roster t) {d : List (Happening V)}
    (htrace : t.trace = s.trace ++ d) (hnext : t.nextHandle = s.nextHandle)
    (hd : ∀ x ∈ d, x.handle? = none) : Orderly t := by
  refine hs.keep ht htrace hnext (fun x hx => ?_) fun _ _ => .of_forall hd
  cases x with
  | joined h | left h => cases hd _ hx
  | _ => exact ⟨rfl, rfl⟩

theorem dismiss (hs : Orderly s) (p : Subscriber V L → Bool) : Orderly (s.dismiss p) := by
  have hnodup : ((s.subscribers.filter p).map (·.handle)).Nodup :=
    hs.roster.nodup.sublist (List.filter_sublist.map _)
  have hhere : ∀ k, .left k ∈ (s.subscribers.filter p).map (fun x => (.left x.handle :
      Happening V)) → k < s.nextHandle ∧ k ∉ left s.trace := by
    intro k hk
    obtain ⟨x, hx, hxk⟩ := List.mem_map.mp hk
    cases hxk
    exact hs.roster.mem_handles.mp (List.mem_map.mpr ⟨x, (List.mem_filter.mp hx).1, rfl⟩)
  refine ⟨hs.roster.dismiss p, ?_, ?_⟩
  · have hjoined : joined ((s.subscribers.filter p).map fun x => (.left x.handle : Happening V)) =
        [] := by
      simp [joined, Function.comp_def]
    rw [Store.trace_dismiss, joined_append, hjoined, List.append_nil]
    exact hs.came
  · refine hs.after_append ?_ ?_
    · intro k hk x hx hxk
      obtain ⟨y, -, rfl⟩ := List.mem_map.mp hx
      cases hxk
      exact (hhere _ hx).2 hk
    · intro k q r hsplit
      have hk := hhere k (hsplit ▸ List.mem_append_right q (List.mem_cons_self ..))
      refine ⟨?_, absent_of_lefts hnodup hsplit⟩
      rw [hs.came, List.mem_range]
      exact hk.1

theorem aside (hs : Orderly s) (h : Aside s t) : Orderly t := by
  have ht := hs.roster.aside h
  cases h with
  | queue as => exact hs.idle ht (Store.trace_queue s as) rfl (handle?_queued as)
  | note entries => exact hs.idle ht (Store.trace_note s entries) rfl (handle?_note entries)
  | drop mount label => exact hs.dismiss _

/-- a subscriber that has not left hears or writes -/
theorem acts (hs : Orderly s) (ht : Roster t) {d : List (Happening V)} {h : Nat}
    (htrace : t.trace = s.trace ++ d) (hnext : t.nextHandle = s.nextHandle)
    (hd : ∀ x ∈ d, (∃ label v, x = .delivered h label v) ∨ (∃ w, x = .wrote h w))
    (hhere : h ∉ left s.trace) : Orderly t := by
  have hhandle : ∀ x ∈ d, x.handle? = some h := by
    intro x hx
    rcases hd x hx with ⟨label, v, rfl⟩ | ⟨w, rfl⟩ <;> rfl
  refine hs.keep ht htrace hnext (fun x hx => ?_) fun k hk x hx hxk => ?_
  · rcases hd x hx with ⟨label, v, rfl⟩ | ⟨w, rfl⟩ <;> exact ⟨rfl, rfl⟩
  · have hkh : h = k := Option.some.inj ((hhandle x hx).symm.trans hxk)
    exact hhere (hkh ▸ hk)

theorem delivers (hs : Orderly s) {h : Nat} (hhere : h ∉ left s.trace) (label : String) (v : V) :
    Orderly (s.record [.delivered h label v]) :=
  hs.acts (hs.roster.keep (Store.trace_record s _) rfl rfl rfl) (Store.trace_record s _) rfl
    (fun _ hx => .inl ⟨label, v, List.mem_singleton.mp hx⟩) hhere

theorem wrote (hs : Orderly s) {h : Nat} (hhere : h ∉ left s.trace) (ws : List Write) :
    Orderly (s.record (ws.map (.wrote h))) := by
  refine hs.acts (hs.roster.wrote h ws) (Store.trace_record s _) rfl (fun x hx => .inr ?_) hhere
  obtain ⟨w, -, rfl⟩ := List.mem_map.mp hx
  exact ⟨w, rfl⟩

theorem join (hs : Orderly s) (label : String) (l : Listener V L) : Orderly (s.join label l) := by
  refine ⟨hs.roster.join label l, ?_, ?_⟩
  · rw [Store.trace_join, joined_append, hs.came]
    show _ = List.range (s.nextHandle + 1)
    rw [List.range_succ]
    rfl
  · refine hs.after_append ?_ ?_
    · intro k hk x hx hxk
      rw [List.mem_singleton.mp hx] at hxk
      cases hxk
      exact Nat.lt_irrefl _ (hs.roster.left_lt _ hk)
    · intro k p q hsplit
      have hmem : .left k ∈ [(.joined s.nextHandle : Happening V)] :=
        hsplit ▸ List.mem_append_right p (List.mem_cons_self ..)
      cases List.mem_singleton.mp hmem

theorem advance (hs : Orderly s) (o : Origin) (a : Action) : Orderly (s.advance o a) :=
  hs.idle (hs.roster.advance o a) (Store.trace_advance s o a) rfl (handle?_action o a _)

theorem update (hs : Orderly s) (h : Nat) (f : Listener V L → Listener V L) :
    Orderly (s.update h f) :=
  hs.idle (d := []) (hs.roster.update h f) (by simp) rfl (List.forall_mem_nil _)

variable [DeepLinker L]

theorem edit (hs : Orderly s) (label text : String) : Orderly (s.edit label text) :=
  hs.idle (d := []) (hs.roster.edit label text) (by simp) rfl (List.forall_mem_nil _)

variable [DecidableEq V] {m m' : Moment V L}

theorem step (hm : Orderly m.store) (h : Step m m') : Orderly m'.store := by
  have hhere : ∀ k l, m.store.listener? k = some l → k ∉ left m.store.trace :=
    fun _ _ hl => (hm.roster.mem_handles.mp (Store.mem_handles_of_listener? hl)).2
  have hfresh : m.store.nextHandle ∉ left m.store.trace :=
    fun hk => Nat.lt_irrefl _ (hm.roster.left_lt _ hk)
  cases h with
  | tick h =>
    cases h with
    | aside due h => exact hm.aside h
    | pass s h due current => exact hm
    | hear s h due label project last reactions listens changed =>
      exact (hm.update h _).delivers (hhere h _ listens) label _
    | write s h due sync last listens changed =>
      have hnote := (hm.update h fun _ => .mount (sync.storeChanged s.state.link.1
        s.state.link.2).sync s.state.link).aside
          (.note _ (sync.storeChanged s.state.link.1 s.state.link.2).entries)
      refine hnote.wrote ?_ _
      rw [Store.trace_note, left_append, List.mem_append]
      exact not_or.mpr ⟨hhere h _ listens, (Absent.of_forall (handle?_note _)).notMem_left⟩
    | take s a rest waits =>
      have hdequeued : Orderly (s.dequeued rest) :=
        hm.idle (d := []) (hm.roster.keep (d := []) (by simp) rfl rfl rfl) (by simp) rfl
          (List.forall_mem_nil _)
      exact hdequeued.advance .queued a
  | greet s label v => exact hm.delivers hfresh label v
  | greetMount s ws => exact hm.wrote hfresh ws
  | join s label l => exact hm.join label l
  | introduce s mount label h free =>
    exact hm.idle (d := []) (Roster.step hm.roster (.introduce s mount label h free)) (by simp) rfl
      (List.forall_mem_nil _)

end Orderly

/-! ## at every moment -/

/-- those who listen are those who came and have not left, in the order in which they came, and so
many are counted.  Entries stand in that order too; a flag is up unless the handle was dropped, and
the next action forgets all entries whose flag is down -/
structure Present (s : Store V L) : Prop where
  came : joined s.trace = List.range s.nextHandle
  handles : s.handles = (joined s.trace).filter fun k => decide (k ∉ left s.trace)
  count : s.subscriberCount = s.handles.length
  sorted : (s.entries.map (·.subscriber.handle)).Pairwise (· < ·)
  active : ∀ e ∈ s.entries, e.active = true ↔ e.subscriber.handle ∉ left s.trace
  purged : ∀ o a, (s.advance o a).entries.map (·.subscriber.handle) = s.handles

/-- the subscriber of a handle is there, and from now on it leaves when what it is called is
dropped, by a reaction or by a call -/
structure Named [DeepLinker L] [DecidableEq V] (mount : Bool) (k : Nat) (label : String)
    (s : Store V L) : Prop where
  here : k ∈ s.handles
  reactions : ∀ m, Reached ⟨s, []⟩ m → ∀ ds,
    k ∈ left (m.store.react ds).trace ↔ k ∈ left m.store.trace ∨ Deed.drop mount label ∈ ds
  calls : ∀ m, Reached ⟨s, []⟩ m → ∀ op, StoreOp.frees mount label op = true →
    k ∈ left (m.store.apply op).trace

theorem Orderly.present {s : Store V L} (hs : Orderly s) (hflags : Flagged s) : Present s := by
  have hhandles : s.entries.map (·.subscriber.handle) = s.marks.map Prod.fst := by
    unfold Store.marks
    rw [List.map_map]
    rfl
  refine ⟨hs.came, ?_, ?_, ?_, ?_, ?_⟩
  · rw [hs.came]
    exact hs.roster.handles
  · rw [Store.subscriberCount_eq]
    exact (List.length_map _).symm
  · rw [hhandles]
    exact List.pairwise_map.mpr hflags.sorted
  · exact fun e he => hflags.active _ (List.mem_map_of_mem he)
  · exact fun _ _ => (List.map_map ..).symm

section
variable [DeepLinker L] [DecidableEq V]

theorem Reached.orderly {state : State} {observers : List Observer} {m : Moment V L}
    (hm : Reached ⟨Store.new state observers, []⟩ m) :
    Orderly m.store ∧ Flagged m.store ∧ InTurn m := by
  induction hm with
  | refl => exact ⟨.new state observers, .new state observers, .new state observers⟩
  | step hm h ih =>
    obtain ⟨horderly, hflags, hturn⟩ := ih
    exact ⟨horderly.step h, hflags.step horderly.roster h, hturn.step horderly.roster h⟩
  | opens hs a ih =>
    obtain ⟨horderly, hflags, hturn⟩ := ih
    exact ⟨horderly.advance .dispatched a, hflags.advance .dispatched a,
      hturn.advance horderly.roster .dispatched a⟩
  | edit hs label text ih =>
    obtain ⟨horderly, hflags, hturn⟩ := ih
    exact ⟨horderly.edit label text, hflags.edit label text, hturn.edit label text⟩

theorem Orderly.reached {m m' : Moment V L} (hm : Orderly m.store) (h : Reached m m') :
    Orderly m'.store :=
  h.preserve (P := fun m => Orderly m.store) (fun _ _ h hm => hm.step h)
    (fun _ a hs => hs.advance .dispatched a) (fun _ label text hs => hs.edit label text) hm

theorem Bears.named {mount : Bool} {k : Nat} {label : String} {s : Store V L}
    (hs : Bears mount k label s) (hk : k ∈ s.handles) : Named mount k label s :=
  ⟨hk, fun _ hm ds => (hs.reached hm).mem_left_react ds,
    fun _ hm _ hop => (hs.reached hm).left_apply hop⟩

/-- who has left is passed over in the cycle that is on -/
theorem Roster.notify_of_left {s : Store V L} (hs : Roster s) {k : Nat} (hk : k ∈ left s.trace) :
    s.notify k = s := by
  have hnone := Option.map_eq_none_iff.mp (hs.listener?_of_left hk)
  rw [Store.notify_eq, hnone]

/-- nothing is about those who have left, as long as the run goes on -/
theorem Orderly.absent_of_left {m m' : Moment V L} (hm : Orderly m.store) (h : Reached m m')
    {k : Nat} (hk : k ∈ left m.store.trace) :
    ∃ d, m'.store.trace = m.store.trace ++ d ∧ Absent k d ∧ k ∉ m'.store.handles := by
  obtain ⟨d, hd⟩ := h.trace_prefix
  obtain ⟨p, q, hsplit⟩ := List.append_of_mem (mem_left.mp hk)
  have hm' := hm.reached h
  have htrace : m'.store.trace = p ++ .left k :: (q ++ d) := by
    rw [← hd, hsplit, List.append_assoc]
    rfl
  have hleft : k ∈ left m'.store.trace := mem_left_of_split htrace
  refine ⟨d, hd.symm, fun x hx => ?_, fun hmem => (hm'.roster.mem_handles.mp hmem).2 hleft⟩
  exact (hm'.after k p (q ++ d) htrace).2 x (List.mem_append_right q hx)

end

/-- **Who leaves.**  At every moment of a run, also in the middle of a cycle, those who listen are
those who came and have not left, in the order in which they came, and so many are counted.  In
every cycle those who are told something are told in that order.

From outside, and by the reactions of whoever is told of a state, those are dropped who bear the
names that are dropped, and all others stay as and where they are.  A subscription or a mount that
comes bears its label until it leaves.  Who has been dropped is passed over in the cycle that is on,
and from that moment on, in that cycle and later, hears and writes nothing, does not come back and
does not count. -/
theorem leaving_run [DeepLinker L] [DecidableEq V] (state : State) (observers : List Observer) :
    let start : Moment V L := ⟨Store.new state observers, []⟩
    (∀ ops, Reached start ⟨start.store.run ops, []⟩) ∧
    ∀ m, Reached start m →
      let s := m.store
      Present s ∧ (∀ p, p <+: s.trace → (lately p).Pairwise (· ≤ ·)) ∧
      (m.due = [] → ∀ op, Reached start ⟨s.apply op, []⟩) ∧
      (∀ h due, m.due = h :: due → Reached start ⟨s.notify h, due⟩) ∧
      (∀ ds, Reached start ⟨s.react ds, m.due⟩) ∧
      (∀ label, Dropped (·.isSubscription label) s (s.apply (.unsubscribe label)) ∧
        Dropped (·.isMount label) s (s.apply (.unmount label))) ∧
      (∀ ds, Dropped (fun x => ds.any (Deed.drops · x)) s (s.react ds)) ∧
      (∀ h, ∀ x ∈ s.subscribers,
        x.handle ∈ left (s.notify h).trace ↔ (s.deedsBy h).any (Deed.drops · x) = true) ∧
      (∀ label project reactions,
        Named false s.nextHandle label (s.select label project reactions)) ∧
      (∀ label sync, Named true s.nextHandle label (s.mount label sync)) ∧
      ∀ k ∈ left s.trace, s.notify k = s ∧ ∀ m', Reached m m' →
        ∃ d, m'.store.trace = s.trace ++ d ∧ heard k d = [] ∧ writes k d = [] ∧ Absent k d ∧
          k ∉ m'.store.handles := by
  intro start
  refine ⟨fun ops => reached_run _ ops, fun m hm => ?_⟩
  intro s
  obtain ⟨horderly, hflags, hturn⟩ := hm.orderly
  have hroster := horderly.roster
  refine ⟨horderly.present hflags, hturn.ordered, ?_, ?_, ?_, ?_, dropped_react hroster,
    fun h x hx => mem_left_notify hroster h hx, ?_, ?_, ?_⟩
  · intro hdue op
    obtain ⟨store, due⟩ := m
    obtain rfl : due = [] := hdue
    exact hm.trans (reached_apply s op)
  · intro h due hdue
    obtain ⟨store, dues⟩ := m
    obtain rfl : dues = h :: due := hdue
    exact hm.trans (Store.ticks_notify s h due).steps.reached
  · intro ds
    exact hm.trans ((s.asides_react ds).ticks m.due).steps.reached
  · exact fun label => ⟨dropped_dismiss hroster _, dropped_dismiss hroster _⟩
  · intro label project reactions
    exact (bears_select hroster label project reactions).named
      (mem_handles_select s label project reactions)
  · intro label sync
    exact (bears_mount hroster label sync).named (mem_handles_mount s label sync)
  · intro k hk
    refine ⟨hroster.notify_of_left hk, fun m' hm' => ?_⟩
    obtain ⟨d, htrace, habsent, hgone⟩ := horderly.absent_of_left hm' hk
    exact ⟨d, htrace, habsent.heard_eq, habsent.writes_eq, habsent, hgone⟩

/-- one subscription drops another in the middle of a cycle, before its turn -/
example :
    let t := (Store.new State.initial [] : Store (Option String) Remembered).run
      [.select "a" State.activePlugin? [.script (some (some "x")) 1 [] ["b"] [] []],
        .select "b" State.activePlugin? [], .dispatch (.pluginChanged "x")]
    heard 0 t.trace = [none, some "x"] ∧ heard 1 t.trace = [none] ∧ left t.trace = [1] ∧
      t.subscriberCount = 1 := by
  decide +kernel

end TabShell

import Mathlib.Logic.Relation
import TabShell.Proofs.Store.Lookup
/-!
# A store step by step

A call on a store runs to its end before it returns.  Here it is cut into ticks, each of which does
one thing.  Between two ticks a `Moment` says which subscribers are still to be told of the state in
the notification cycle that is on.

* `Tick`            what happens while actions are processed: subscribers react, are told or passed
                    over, and, when nobody is to be told any more, the oldest action that waits is
                    taken;
* `Step`            a tick, or one of the things that happen while a subscriber comes;
* `ticks_drain`, `ticks_dispatch`   processing is a sequence of ticks;
* `steps_apply`     every operation is a sequence of steps, apart from the opening of a dispatch and
                    the edits;
* `Reached`         the moments that follow a moment, by steps, openings and edits.

What holds at every moment of a run is proved for each tick and step, and follows by
`Reached.preserve`.
-/

namespace TabShell

variable {V L : Type}

/-- what single steps preserve, any number of them preserves -/
theorem reflTransGen_preserves {α : Type} {r : α → α → Prop} {P : α → Prop}
    (step : ∀ a b, r a b → P a → P b) {a b : α} (h : Relation.ReflTransGen r a b) (ha : P a) :
    P b := by
  induction h with
  | refl => exact ha
  | tail _ h ih => exact step _ _ h ih

/-- what a mount hears of a state -/
def State.link (s : State) : Option String × Bool := (s.activePlugin?, s.routeReady)

/-- whether what was heard last is what there is to hear -/
def Listener.IsCurrent (state : State) : Listener V L → Prop
  | subscription project last _ => project state = last
  | mount _ last => state.link = last

/-- a store, and those who are still to be told of its state -/
structure Moment (V L : Type) where
  store : Store V L
  due : List Nat

/-- what a reaction is made of; the state stays as it is -/
inductive Aside : Store V L → Store V L → Prop
  | queue (s : Store V L) (as : List Action) : Aside s (s.queue as)
  | note (s : Store V L) (entries : List LogEntry) : Aside s (s.note entries)
  | drop (s : Store V L) (mount : Bool) (label : String) :
      Aside s (s.dismiss (·.isNamed mount label))

/-- one thing that happens while actions are processed -/
inductive Tick [DeepLinker L] [DecidableEq V] : Moment V L → Moment V L → Prop
  | aside {s t : Store V L} (due : List Nat) (h : Aside s t) : Tick ⟨s, due⟩ ⟨t, due⟩
  | pass (s : Store V L) (h : Nat) (due : List Nat)
      (current : ∀ l, s.listener? h = some l → l.IsCurrent s.state) :
      Tick ⟨s, h :: due⟩ ⟨s, due⟩
  | hear (s : Store V L) (h : Nat) (due : List Nat) (label : String) (project : State → V)
      (last : V) (reactions : List (Reaction V))
      (listens : s.listener? h = some (.subscription project last reactions))
      (changed : project s.state ≠ last) :
      Tick ⟨s, h :: due⟩
        ⟨(s.update h fun _ => .subscription project (project s.state)
            (reactions.map (Reaction.spend (project s.state)))).record
          [.delivered h label (project s.state)], due⟩
  | write (s : Store V L) (h : Nat) (due : List Nat) (sync : Synchronizer L)
      (last : Option String × Bool) (listens : s.listener? h = some (.mount sync last))
      (changed : s.state.link ≠ last) :
      Tick ⟨s, h :: due⟩
        ⟨((s.update h fun _ => .mount (sync.storeChanged s.state.link.1 s.state.link.2).sync
            s.state.link).note (sync.storeChanged s.state.link.1 s.state.link.2).entries).record
          ((sync.storeChanged s.state.link.1 s.state.link.2).writes.map (.wrote h)), due⟩
  | take (s : Store V L) (a : Action) (rest : List Action) (waits : s.pending = a :: rest) :
      Tick ⟨s, []⟩ ⟨(s.dequeued rest).advance .queued a, s.handles⟩

/-- a tick, or one of the things that happen while a subscriber comes -/
inductive Step [DeepLinker L] [DecidableEq V] : Moment V L → Moment V L → Prop
  | tick {m m' : Moment V L} (h : Tick m m') : Step m m'
  | greet (s : Store V L) (label : String) (v : V) :
      Step ⟨s, []⟩ ⟨s.record [.delivered s.nextHandle label v], []⟩
  | greetMount (s : Store V L) (ws : List Write) :
      Step ⟨s, []⟩ ⟨s.record (ws.map (.wrote s.nextHandle)), []⟩
  | join (s : Store V L) (label : String) (l : Listener V L) : Step ⟨s, []⟩ ⟨s.join label l, []⟩
  | introduce (s : Store V L) (mount : Bool) (label : String) (h : Nat)
      (free : ∀ x ∈ s.subscribers, x.isNamed mount label = false) :
      Step ⟨s, []⟩ ⟨s.introduce mount label h, []⟩

theorem Step.nextHandle_le [DeepLinker L] [DecidableEq V] {m m' : Moment V L} (h : Step m m') :
    m.store.nextHandle ≤ m'.store.nextHandle := by
  cases h with
  | tick h =>
    cases h with
    | aside due h => cases h <;> exact Nat.le_refl _
    | _ => exact Nat.le_refl _
  | join s label l => exact Nat.le_succ _
  | _ => exact Nat.le_refl _

theorem Step.trace_prefix [DeepLinker L] [DecidableEq V] {m m' : Moment V L} (h : Step m m') :
    m.store.trace <+: m'.store.trace := by
  cases h with
  | tick h =>
    cases h with
    | aside due h => cases h <;> exact List.prefix_append _ _
    | pass s h due current => exact List.prefix_rfl
    | hear => exact List.prefix_append _ _
    | write => exact (List.prefix_append _ _).trans (List.prefix_append _ _)
    | take => exact List.prefix_append _ _
  | introduce s mount label h free => exact List.prefix_rfl
  | _ => exact List.prefix_append _ _

namespace Store

/-- one store leads to another by what reactions are made of -/
def Asides : Store V L → Store V L → Prop := Relation.ReflTransGen Aside

/-! ## reactions -/

theorem Asides.preserve {P : Store V L → Prop} (asides : ∀ s t, Aside s t → P s → P t)
    {s t : Store V L} (h : Asides s t) (hs : P s) : P t :=
  reflTransGen_preserves asides h hs

theorem Asides.nextHandle_eq {s t : Store V L} (h : Asides s t) : t.nextHandle = s.nextHandle := by
  refine h.preserve (P := fun x => x.nextHandle = s.nextHandle) ?_ rfl
  intro x y hxy hx
  cases hxy <;> exact hx

theorem asides_unsubscribe (s : Store V L) (label : String) : Asides s (s.unsubscribe label) :=
  .single (.drop s false label)

theorem asides_unmount (s : Store V L) (label : String) : Asides s (s.unmount label) :=
  .single (.drop s true label)

/-- nobody bears a name that was dropped -/
theorem isNamed_of_mem_dismiss {s : Store V L} {mount : Bool} {label : String}
    {x : Subscriber V L} (hx : x ∈ (s.dismiss (·.isNamed mount label)).subscribers) :
    x.isNamed mount label = false := by
  rw [subscribers_dismiss] at hx
  simpa using (List.mem_filter.mp hx).2

variable [DeepLinker L]

theorem asides_linkChanged (s : Store V L) (label : String) : Asides s (s.linkChanged label) := by
  unfold linkChanged
  split
  · exact (Relation.ReflTransGen.single (.note s _)).tail (.queue _ _)
  · exact .refl

theorem asides_act (s : Store V L) (d : Deed) : Asides s (s.act d) := by
  cases d with
  | queue a => exact .single (.queue s [a])
  | unsubscribe label => exact asides_unsubscribe s label
  | linkChanged label => exact asides_linkChanged s label
  | unmount label => exact asides_unmount s label

theorem asides_react (s : Store V L) (ds : List Deed) : Asides s (s.react ds) := by
  induction ds generalizing s with
  | nil => exact .refl
  | cons d ds ih => exact (asides_act s d).trans (ih (s.act d))

/-- a value is heard, and all else are reactions -/
theorem asides_deliver (s : Store V L) (h : Nat) (label : String) (v : V)
    (reactions : List (Reaction V)) :
    Asides (s.record [.delivered h label v]) (s.deliver h label v reactions) :=
  asides_react _ _

variable [DecidableEq V]

/-- one moment leads to another by ticks -/
def Ticks : Moment V L → Moment V L → Prop := Relation.ReflTransGen Tick

/-- one moment leads to another by steps -/
def Steps : Moment V L → Moment V L → Prop := Relation.ReflTransGen Step

theorem Ticks.steps {m m' : Moment V L} (h : Ticks m m') : Steps m m' := by
  induction h with
  | refl => exact .refl
  | tail _ h ih => exact ih.tail (.tick h)

theorem Asides.ticks {s t : Store V L} (h : Asides s t) (due : List Nat) :
    Ticks ⟨s, due⟩ ⟨t, due⟩ := by
  induction h with
  | refl => exact .refl
  | tail _ h ih => exact ih.tail (.aside due h)

/-! ## notification cycles -/

/-- the store once the subscriber of a handle was told of the state, before it reacts -/
def told (s : Store V L) (h : Nat) : Store V L :=
  match s.subscribers.find? fun x => decide (x.handle = h) with
  | none => s
  | some x =>
    match x.listener with
    | .subscription project last reactions =>
      if project s.state = last then s
      else
        (s.update h fun _ => .subscription project (project s.state)
          (reactions.map (Reaction.spend (project s.state)))).record
            [.delivered h x.label (project s.state)]
    | .mount sync last =>
      if s.state.link = last then s
      else
        ((s.update h fun _ => .mount (sync.storeChanged s.state.link.1 s.state.link.2).sync
          s.state.link).note (sync.storeChanged s.state.link.1 s.state.link.2).entries).record
            ((sync.storeChanged s.state.link.1 s.state.link.2).writes.map (.wrote h))

/-- what the subscriber of a handle does when it is told of the state -/
def deedsBy (s : Store V L) (h : Nat) : List Deed :=
  match s.listener? h with
  | some (.subscription project last reactions) =>
    if project s.state = last then [] else reactions.flatMap (Reaction.deedsAt (project s.state))
  | some (.mount _ _) | none => []

theorem notify_eq_react (s : Store V L) (h : Nat) :
    s.notify h = (s.told h).react (s.deedsBy h) := by
  rw [notify_eq]
  unfold told deedsBy listener?
  cases s.subscribers.find? fun x => decide (x.handle = h) with
  | none => rfl
  | some x =>
    obtain ⟨handle, label, known, listener⟩ := x
    cases listener with
    | subscription project last reactions =>
      simp only [Option.map_some]
      split <;> rfl
    | mount sync last => rfl

theorem pending_told (s : Store V L) (h : Nat) : (s.told h).pending = s.pending := by
  unfold told
  split
  · rfl
  · split <;> split <;> rfl

/-- only views that show values, entries or writes tell that a subscriber was told of the state -/
theorem filterMap_told {β : Type} {f : Happening V → Option β}
    (hdelivered : ∀ k label v, f (.delivered k label v) = none)
    (heffect : ∀ e, f (.effect e) = none) (hwrote : ∀ k w, f (.wrote k w) = none)
    (s : Store V L) (h : Nat) : (s.told h).trace.filterMap f = s.trace.filterMap f := by
  have hnone : ∀ {hs : List (Happening V)}, (∀ x ∈ hs, f x = none) →
      ∀ t, (t ++ hs).filterMap f = t.filterMap f := fun hhs t => by
    rw [List.filterMap_append, List.filterMap_eq_nil_iff.mpr hhs, List.append_nil]
  unfold told
  split
  · rfl
  · split
    · split
      · rfl
      · refine hnone (fun x hx => ?_) _
        rw [List.mem_singleton.mp hx]
        exact hdelivered ..
    · split
      · rfl
      · refine (hnone (fun x hx => ?_) _).trans (hnone (fun x hx => ?_) _)
        · obtain ⟨w, -, rfl⟩ := List.mem_map.mp hx
          exact hwrote h w
        · obtain ⟨entry, -, rfl⟩ := List.mem_map.mp hx
          exact heffect _

theorem tick_told (s : Store V L) (h : Nat) (due : List Nat) :
    Tick ⟨s, h :: due⟩ ⟨s.told h, due⟩ := by
  unfold told
  split
  · next hnone =>
    refine .pass s h due fun l hl => ?_
    simp [listener?, hnone] at hl
  · next x hx =>
    have hl : s.listener? h = some x.listener := by simp [listener?, hx]
    split
    · next project last reactions hlistener =>
      rw [hlistener] at hl
      split
      · next hsame =>
        refine .pass s h due fun l hl' => ?_
        cases hl.symm.trans hl'
        exact hsame
      · next hchanged => exact .hear s h due x.label project last reactions hl hchanged
    · next sync last hlistener =>
      rw [hlistener] at hl
      split
      · next hsame =>
        refine .pass s h due fun l hl' => ?_
        cases hl.symm.trans hl'
        exact hsame
      · next hchanged => exact .write s h due sync last hl hchanged

theorem ticks_notify (s : Store V L) (h : Nat) (due : List Nat) :
    Ticks ⟨s, h :: due⟩ ⟨s.notify h, due⟩ := by
  rw [notify_eq_react]
  exact (Relation.ReflTransGen.single (tick_told s h due)).trans ((asides_react _ _).ticks due)

theorem ticks_foldl_notify (due : List Nat) (s : Store V L) :
    Ticks ⟨s, due⟩ ⟨due.foldl notify s, []⟩ := by
  induction due generalizing s with
  | nil => exact .refl
  | cons h due ih => exact (ticks_notify s h due).trans (ih (s.notify h))

theorem ticks_drain (s : Store V L) : Ticks ⟨s, []⟩ ⟨s.drain, []⟩ := by
  fun_induction drain s with
  | case1 s hnil => exact .refl
  | case2 s a rest hcons ih =>
    rw [process_eq] at ih ⊢
    exact ((Relation.ReflTransGen.single (.take s a rest hcons)).trans
      (ticks_foldl_notify s.handles _)).trans ih

/-- a dispatch, once its action has changed the state -/
theorem ticks_dispatch (s : Store V L) (a : Action) :
    Ticks ⟨s.advance .dispatched a, s.handles⟩ ⟨s.dispatch a, []⟩ := by
  unfold dispatch
  rw [process_eq]
  exact (ticks_foldl_notify s.handles _).trans (ticks_drain _)

/-! ## operations -/

/-- once a subscription has joined the others -/
theorem ticks_select_joined (s : Store V L) (label : String) :
    Ticks ⟨s, []⟩ ⟨s.drain.unsubscribe label, []⟩ :=
  (ticks_drain s).trans ((asides_unsubscribe _ label).ticks [])

theorem steps_select_joined (s : Store V L) (label : String) (h : Nat) :
    Steps ⟨s, []⟩ ⟨(s.drain.unsubscribe label).introduce false label h, []⟩ :=
  (ticks_select_joined s label).steps.tail
    (.introduce _ false label h fun _ hx => isNamed_of_mem_dismiss hx)

/-- once a mount has joined the others -/
theorem ticks_mount_joined (s : Store V L) (label : String) :
    Ticks ⟨s, []⟩ ⟨s.drain.unmount label, []⟩ :=
  (ticks_drain s).trans ((asides_unmount _ label).ticks [])

theorem steps_mount_joined (s : Store V L) (label : String) (h : Nat) :
    Steps ⟨s, []⟩ ⟨(s.drain.unmount label).introduce true label h, []⟩ :=
  (ticks_mount_joined s label).steps.tail
    (.introduce _ true label h fun _ hx => isNamed_of_mem_dismiss hx)

/-- a subscription that comes, until its call begins to drain what waits -/
theorem steps_select_opened (s : Store V L) (label : String) (project : State → V)
    (reactions : List (Reaction V)) :
    Steps ⟨s, []⟩ ⟨(s.deliver s.nextHandle label (project s.state) reactions).join label
      (.subscription project (project s.state)
        (reactions.map (Reaction.spend (project s.state)))), []⟩ := by
  have hgreet : Steps ⟨s, []⟩ ⟨s.record [.delivered s.nextHandle label (project s.state)], []⟩ :=
    .single (.greet s label (project s.state))
  have hreact := ((asides_deliver s s.nextHandle label (project s.state) reactions).ticks []).steps
  exact (hgreet.trans hreact).tail (.join _ label (.subscription project (project s.state)
    (reactions.map (Reaction.spend (project s.state)))))

theorem steps_select (s : Store V L) (label : String) (project : State → V)
    (reactions : List (Reaction V)) : Steps ⟨s, []⟩ ⟨s.select label project reactions, []⟩ :=
  (steps_select_opened s label project reactions).trans (steps_select_joined _ label s.nextHandle)

/-- the store once a mount that comes has heard of its state -/
def greeted (s : Store V L) (sync : Synchronizer L) : Store V L :=
  (s.note (sync.storeChanged s.state.link.1 s.state.link.2).entries).record
    ((sync.storeChanged s.state.link.1 s.state.link.2).writes.map (.wrote s.nextHandle))

theorem mount_eq (s : Store V L) (label : String) (sync : Synchronizer L) :
    s.mount label sync = (((s.greeted sync).join label
      (.mount (sync.storeChanged s.state.link.1 s.state.link.2).sync s.state.link)).drain.unmount
        label).introduce true label s.nextHandle := rfl

theorem steps_greeted (s : Store V L) (sync : Synchronizer L) :
    Steps ⟨s, []⟩ ⟨s.greeted sync, []⟩ := by
  have hnote : Steps ⟨s, []⟩
      ⟨s.note (sync.storeChanged s.state.link.1 s.state.link.2).entries, []⟩ :=
    .single (.tick (.aside [] (.note s _)))
  exact hnote.tail (.greetMount _ (sync.storeChanged s.state.link.1 s.state.link.2).writes)

/-- a mount that comes, until its call begins to drain what waits -/
theorem steps_mount_opened (s : Store V L) (label : String) (sync : Synchronizer L) :
    Steps ⟨s, []⟩ ⟨(s.greeted sync).join label
      (.mount (sync.storeChanged s.state.link.1 s.state.link.2).sync s.state.link), []⟩ :=
  (steps_greeted s sync).tail (.join _ label _)

theorem steps_mount (s : Store V L) (label : String) (sync : Synchronizer L) :
    Steps ⟨s, []⟩ ⟨s.mount label sync, []⟩ := by
  rw [mount_eq]
  exact (steps_mount_opened s label sync).trans (steps_mount_joined _ label s.nextHandle)

/-- an operation is the opening of a dispatch and ticks, an edit, or steps -/
theorem steps_apply (s : Store V L) (op : StoreOp V L) :
    (∃ a, op = .dispatch a ∧ Ticks ⟨s.advance .dispatched a, s.handles⟩ ⟨s.apply op, []⟩) ∨
    (∃ label text, op = .edit label text) ∨
    (∀ a, op ≠ .dispatch a) ∧ Steps ⟨s, []⟩ ⟨s.apply op, []⟩ := by
  cases op with
  | dispatch a => exact .inl ⟨a, rfl, ticks_dispatch s a⟩
  | edit label text => exact .inr (.inl ⟨label, text, rfl⟩)
  | queue as => exact .inr (.inr ⟨nofun, .single (.tick (.aside [] (.queue s as)))⟩)
  | drain => exact .inr (.inr ⟨nofun, (ticks_drain s).steps⟩)
  | select label project reactions =>
    exact .inr (.inr ⟨nofun, steps_select s label project reactions⟩)
  | unsubscribe label =>
    exact .inr (.inr ⟨nofun, ((asides_unsubscribe s label).ticks []).steps⟩)
  | mount label sync => exact .inr (.inr ⟨nofun, steps_mount s label sync⟩)
  | unmount label => exact .inr (.inr ⟨nofun, ((asides_unmount s label).ticks []).steps⟩)
  | linkChanged label => exact .inr (.inr ⟨nofun, ((asides_linkChanged s label).ticks []).steps⟩)
  | nothing => exact .inr (.inr ⟨nofun, .refl⟩)

theorem Ticks.preserve {P : Moment V L → Prop} (ticks : ∀ m m', Tick m m' → P m → P m')
    {m m' : Moment V L} (h : Ticks m m') (hm : P m) : P m' :=
  reflTransGen_preserves ticks h hm

theorem Steps.preserve {P : Moment V L → Prop} (steps : ∀ m m', Step m m' → P m → P m')
    {m m' : Moment V L} (h : Steps m m') (hm : P m) : P m' :=
  reflTransGen_preserves steps h hm

end Store

/-! ## moments of a run -/

/-- the moments that can follow a moment, between calls and within them -/
inductive Reached [DeepLinker L] [DecidableEq V] (first : Moment V L) : Moment V L → Prop
  | refl : Reached first first
  | step {m m' : Moment V L} (hm : Reached first m) (h : Step m m') : Reached first m'
  | opens {s : Store V L} (hs : Reached first ⟨s, []⟩) (a : Action) :
      Reached first ⟨s.advance .dispatched a, s.handles⟩
  | edit {s : Store V L} (hs : Reached first ⟨s, []⟩) (label text : String) :
      Reached first ⟨s.edit label text, []⟩

section
variable [DeepLinker L] [DecidableEq V] {m m' m'' : Moment V L}

theorem Reached.trans (h : Reached m m') (h' : Reached m' m'') : Reached m m'' := by
  induction h' with
  | refl => exact h
  | step _ hstep ih => exact ih.step hstep
  | opens _ a ih => exact ih.opens a
  | edit _ label text ih => exact ih.edit label text

theorem Store.Steps.reached (h : Store.Steps m m') : Reached m m' :=
  h.preserve (P := Reached m) (fun _ _ h hm => hm.step h) .refl

theorem reached_apply (s : Store V L) (op : StoreOp V L) : Reached ⟨s, []⟩ ⟨s.apply op, []⟩ := by
  rcases s.steps_apply op with ⟨a, rfl, h⟩ | ⟨label, text, rfl⟩ | ⟨-, h⟩
  · exact (Reached.opens .refl a).trans h.steps.reached
  · exact .edit .refl label text
  · exact h.reached

theorem reached_run (s : Store V L) (ops : List (StoreOp V L)) :
    Reached ⟨s, []⟩ ⟨s.run ops, []⟩ := by
  induction ops generalizing s with
  | nil => exact .refl
  | cons op ops ih => exact (reached_apply s op).trans (ih (s.apply op))

/-- what steps, the opening of a dispatch and edits preserve holds at all moments that follow -/
theorem Reached.preserve {P : Moment V L → Prop} (steps : ∀ m m', Step m m' → P m → P m')
    (opens : ∀ s a, P ⟨s, []⟩ → P ⟨s.advance .dispatched a, s.handles⟩)
    (edits : ∀ s label text, P ⟨s, []⟩ → P ⟨s.edit label text, []⟩)
    (h : Reached m m') (hm : P m) : P m' := by
  induction h with
  | refl => exact hm
  | step _ hstep ih => exact steps _ _ hstep ih
  | opens _ a ih => exact opens _ a ih
  | edit _ label text ih => exact edits _ label text ih

theorem Reached.trace_prefix (h : Reached m m') : m.store.trace <+: m'.store.trace :=
  h.preserve (P := fun x => m.store.trace <+: x.store.trace)
    (fun _ _ hx hm => hm.trans hx.trace_prefix) (fun _ _ hm => hm.trans (List.prefix_append _ _))
    (fun _ _ _ hm => hm) List.prefix_rfl

/-- what steps, the opening of a dispatch and edits preserve, runs preserve -/
theorem Store.run_induction {P : Moment V L → Prop} (steps : ∀ m m', Step m m' → P m → P m')
    (opens : ∀ s a, P ⟨s, []⟩ → P ⟨s.advance .dispatched a, s.handles⟩)
    (edits : ∀ s label text, P ⟨s, []⟩ → P ⟨s.edit label text, []⟩)
    {s : Store V L} (hs : P ⟨s, []⟩) (ops : List (StoreOp V L)) : P ⟨s.run ops, []⟩ :=
  (reached_run s ops).preserve steps opens edits hs

end

end TabShell

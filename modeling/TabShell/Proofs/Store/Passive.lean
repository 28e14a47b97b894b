import TabShell.Proofs.Store.Changes
import TabShell.Proofs.Store.Naming
import TabShell.Proofs.Store.Without
/-!
# Subscribers that only listen

A subscription without reactions queues nothing and drops nobody.  So a store that has one does what
the store without it does, step by step, and all that differs is what happens to that one, and the
handles of those who came later.

* `Beside`           two stores, one of which has a subscription more that only listens;
* `Beside.run`       operations keep it so;
* `Beside.comes`, `Beside.goes`   the subscription comes, and goes;
* `passive_select`   what is the same with it and without it, and in which order two of them come.
-/

namespace TabShell

variable {V L : Type}

/-- a subscription without reactions -/
def Listener.Passive (l : Listener V L) : Prop := ∃ project last, l = .subscription project last []

/-- a subscriber of `t`, that of `k`, only listens; `s` is `t` without it, and since `base` the same
has happened in both to all others -/
structure Beside (base : List (Happening V)) (k : Nat) (s t : Store V L) : Prop where
  state : s.state = t.state
  observers : s.observers = t.observers
  pending : s.pending = t.pending
  subscribers : s.subscribers = without k t.subscribers
  nextHandle : t.nextHandle = s.nextHandle + 1
  came : k ≤ s.nextHandle
  passive : ∀ x ∈ t.subscribers, x.handle = k → x.listener.Passive
  trace : ∃ d, t.trace = base ++ d ∧ s.trace = base ++ others k d

namespace Beside

variable {base : List (Happening V)} {k i : Nat} {s t : Store V L}

theorem since (h : Beside base k s t) (e : List (Happening V)) :
    ∃ d, t.trace ++ e = base ++ d ∧ s.trace ++ others k e = base ++ others k d := by
  obtain ⟨d, ht, hs⟩ := h.trace
  refine ⟨d ++ e, ?_, ?_⟩
  · rw [ht, List.append_assoc]
  · rw [hs, others_append, List.append_assoc]

theorem next (h : Beside base k s t) : t.nextHandle ≠ k ∧ past k t.nextHandle = s.nextHandle := by
  rw [h.nextHandle]
  exact ⟨Nat.ne_of_gt (Nat.lt_succ_of_le h.came), past_succ h.came⟩

theorem record (h : Beside base k s t) {d e : List (Happening V)} (he : others k e = d) :
    Beside base k (s.record d) (t.record e) := by
  have hsince := h.since e
  rw [he] at hsince
  exact { h with trace := hsince }

theorem record_self (h : Beside base k s t) {e : List (Happening V)} (he : others k e = []) :
    Beside base k s (t.record e) := by
  have hsince := h.since e
  rw [he, List.append_nil] at hsince
  exact { h with trace := hsince }

theorem note (h : Beside base k s t) (entries : List LogEntry) :
    Beside base k (s.note entries) (t.note entries) :=
  h.record (others_notes k entries)

theorem queue (h : Beside base k s t) (as : List Action) :
    Beside base k (s.queue as) (t.queue as) := by
  have hsince := h.since (as.map .queued)
  rw [others_queued] at hsince
  exact { h with pending := congrArg (· ++ as) h.pending, trace := hsince }

theorem dismiss (h : Beside base k s t) {p : Subscriber V L → Bool}
    (hp : ∀ x i, p { x with handle := i } = p x) : Beside base k (s.dismiss p) (t.dismiss p) := by
  have hstay : ∀ (x : Subscriber V L) i, (!p { x with handle := i }) = !p x :=
    fun x i => congrArg not (hp x i)
  have hsince := h.since ((t.subscribers.filter p).map fun x => .left x.handle)
  rw [others_lefts, without_filter hp, ← h.subscribers] at hsince
  refine { h with subscribers := ?_, passive := ?_, trace := hsince }
  · rw [Store.subscribers_dismiss, Store.subscribers_dismiss, without_filter hstay, h.subscribers]
  · rw [Store.subscribers_dismiss]
    exact fun x hx => h.passive x (List.mem_of_mem_filter hx)

theorem update (h : Beside base k s t) (hi : i ≠ k) (f : Listener V L → Listener V L) :
    Beside base k (s.update (past k i) f) (t.update i f) := by
  refine { h with subscribers := ?_, passive := fun x hx hk => ?_ }
  · rw [Store.subscribers_update, Store.subscribers_update, without_updateFirst hi, h.subscribers]
  · rw [Store.subscribers_update] at hx
    rcases mem_updateFirst hx with hx | ⟨y, -, hy, rfl⟩
    · exact h.passive x hx hk
    · exact absurd (hy.symm.trans hk) hi

theorem update_self (h : Beside base k s t) {l : Listener V L} (hl : l.Passive) :
    Beside base k s (t.update k fun _ => l) := by
  refine { h with subscribers := ?_, passive := fun x hx hk => ?_ }
  · rw [Store.subscribers_update, without_updateFirst_self, h.subscribers]
  · rw [Store.subscribers_update] at hx
    rcases mem_updateFirst hx with hx | ⟨y, -, -, rfl⟩
    · exact h.passive x hx hk
    · exact hl

theorem join (h : Beside base k s t) (label : String) (l : Listener V L) :
    Beside base k (s.join label l) (t.join label l) := by
  obtain ⟨hne, hnext⟩ := h.next
  have hsince := h.since [.joined t.nextHandle]
  rw [others_joined hne, hnext] at hsince
  refine ⟨h.state, h.observers, h.pending, ?_, congrArg (· + 1) h.nextHandle,
    Nat.le_succ_of_le h.came, fun x hx hk => ?_, hsince⟩
  · rw [Store.subscribers_join, Store.subscribers_join, without_append, h.subscribers, ← hnext]
    exact congrArg (_ ++ ·)
      (without_cons_of_ne (x := ⟨t.nextHandle, label, false, l⟩) hne []).symm
  · rw [Store.subscribers_join] at hx
    rcases List.mem_append.mp hx with hx | hx
    · exact h.passive x hx hk
    · rw [List.mem_singleton.mp hx] at hk
      exact absurd hk hne

/-- a change of each subscriber that leaves the handles, and that leaves passive who is -/
theorem map (h : Beside base k s t) {f g : Subscriber V L → Subscriber V L}
    (hhandle : ∀ x, (f x).handle = x.handle)
    (hf : ∀ x, x.handle ≠ k →
      g { x with handle := past k x.handle } = { f x with handle := past k x.handle })
    (hpassive : ∀ x, x.listener.Passive → (f x).listener.Passive) :
    Beside base k (s.alter g) (t.alter f) := by
  refine { h with subscribers := ?_, passive := fun y hy hk => ?_ }
  · rw [Store.subscribers_alter, Store.subscribers_alter, without_map hhandle hf, h.subscribers]
  · rw [Store.subscribers_alter] at hy
    obtain ⟨x, hx, rfl⟩ := List.mem_map.mp hy
    exact hpassive x (h.passive x hx ((hhandle x).symm.trans hk))

theorem introduce (h : Beside base k s t) (hi : i ≠ k) (mount : Bool) (label : String) :
    Beside base k (s.introduce mount label (past k i)) (t.introduce mount label i) := by
  refine h.map (Store.handle_introduced mount label i) (fun x hx => ?_) (fun x hx => ?_)
  · unfold Subscriber.introduced
    simp only [past_inj hx hi]
    show (if x.handle = i ∧ x.isCalled mount label = true then _ else _) = _
    split <;> rfl
  · rw [Store.listener_introduced]
    exact hx

theorem introduce_self (h : Beside base k s t) (mount : Bool) (label : String) :
    Beside base k s (t.introduce mount label k) := by
  have hrest : ∀ x : Subscriber V L, x.handle ≠ k → x.introduced mount label k = x :=
    fun x hx => if_neg fun hk => hx hk.1
  refine { h with subscribers := ?_, passive := fun y hy hk => ?_ }
  · have hmap := without_map (Store.handle_introduced mount label k) (g := id)
      (fun x hx => by rw [hrest x hx]; rfl) t.subscribers
    rw [Store.subscribers_introduce, hmap, List.map_id, h.subscribers]
  · rw [Store.subscribers_introduce] at hy
    obtain ⟨x, hx, rfl⟩ := List.mem_map.mp hy
    rw [Store.listener_introduced]
    exact h.passive x hx ((Store.handle_introduced mount label k x).symm.trans hk)

theorem dequeued (h : Beside base k s t) (rest : List Action) :
    Beside base k (s.dequeued rest) (t.dequeued rest) :=
  { h with pending := rfl }

theorem advance (h : Beside base k s t) (o : Origin) (a : Action) :
    Beside base k (s.advance o a) (t.advance o a) := by
  have hsince := h.since (.processed o a :: (transitionEffects t.observers t.state a).map .effect)
  rw [others_action] at hsince
  refine { h with
    state := congrArg (reduce · a) h.state
    observers := congrArg (List.map _) h.observers
    subscribers := ?_
    passive := ?_
    trace := ?_ }
  · rw [Store.subscribers_advance, Store.subscribers_advance]
    exact h.subscribers
  · rw [Store.subscribers_advance]
    exact h.passive
  rw [Store.trace_advance, Store.trace_advance, h.observers, h.state]
  exact hsince

theorem mounted? (h : Beside base k s t) (label : String) :
    t.mounted? label = s.mounted? label := by
  have hself : ∀ x ∈ t.subscribers, x.handle = k → x.isMount label = false := by
    intro x hx hk
    obtain ⟨project, last, hl⟩ := h.passive x hx hk
    simp [Subscriber.isMount, Subscriber.isNamed, Subscriber.isCalled, hl, Listener.isMount]
  unfold Store.mounted?
  rw [h.subscribers, find?_without hself fun _ _ => rfl, Option.bind_assoc]
  cases hfind : t.subscribers.find? (·.isMount label) with
  | none => rfl
  | some x =>
    have hx : x.handle ≠ k := fun hk =>
      Bool.false_ne_true ((hself x (List.mem_of_find?_eq_some hfind) hk).symm.trans
        (List.find?_some hfind :))
    show x.listener.sync? = (Subscriber.others? k x).bind _
    unfold Subscriber.others? spare
    rw [if_neg hx]
    rfl

variable [DeepLinker L]

theorem edit (h : Beside base k s t) (label text : String) :
    Beside base k (s.edit label text) (t.edit label text) := by
  refine h.map (Store.handle_edited label text) (fun x _ => ?_) fun x hx => ?_
  · unfold Subscriber.edited
    show (if x.isMount label = true then _ else _) = _
    split <;> rfl
  · obtain ⟨project, last, hl⟩ := hx
    refine ⟨project, last, ?_⟩
    unfold Subscriber.edited Subscriber.relisten
    split <;> simp only [hl]

theorem linkChanged (h : Beside base k s t) (label : String) :
    Beside base k (s.linkChanged label) (t.linkChanged label) := by
  unfold Store.linkChanged
  rw [h.mounted? label]
  cases s.mounted? label with
  | none => exact h
  | some sync => exact (h.note _).queue _

theorem act (h : Beside base k s t) (d : Deed) : Beside base k (s.act d) (t.act d) := by
  cases d with
  | queue a => exact h.queue [a]
  | unsubscribe label => exact h.dismiss fun _ _ => rfl
  | linkChanged label => exact h.linkChanged label
  | unmount label => exact h.dismiss fun _ _ => rfl

theorem react (h : Beside base k s t) (ds : List Deed) :
    Beside base k (s.react ds) (t.react ds) :=
  List.foldl_rel h fun d _ _ _ h => h.act d

theorem deliver (h : Beside base k s t) (hi : i ≠ k) (label : String) (v : V)
    (rs : List (Reaction V)) :
    Beside base k (s.deliver (past k i) label v rs) (t.deliver i label v rs) :=
  (h.record (others_delivered hi label v)).react _

variable [DecidableEq V]

theorem notify (h : Beside base k s t) (hi : i ≠ k) :
    Beside base k (s.notify (past k i)) (t.notify i) := by
  rw [Store.notify_eq, Store.notify_eq, h.subscribers, find?_handle_without hi, h.state]
  cases t.subscribers.find? fun x => decide (x.handle = i) with
  | none => exact h
  | some x =>
    obtain ⟨handle, label, known, listener⟩ := x
    cases listener with
    | subscription project last reactions =>
      simp only [Option.map_some]
      split
      · exact h
      · exact (h.update hi _).deliver hi _ _ _
    | mount sync last =>
      simp only [Option.map_some]
      split
      · exact h
      · exact ((h.update hi _).note _).record (others_wrote hi _)

/-- the one that only listens is told of the state -/
theorem notify_self (h : Beside base k s t) : Beside base k s (t.notify k) := by
  rw [Store.notify_eq]
  cases hfind : t.subscribers.find? fun x => decide (x.handle = k) with
  | none => exact h
  | some x =>
    have hx : x.handle = k := of_decide_eq_true (List.find?_some hfind :)
    obtain ⟨project, last, hl⟩ := h.passive x (List.mem_of_find?_eq_some hfind) hx
    simp only [hl]
    split
    · exact h
    · have hupdate := h.update_self ⟨project, project t.state, rfl⟩
      exact hupdate.record_self (others_delivered_self k x.label (project t.state))

/-- in a cycle the others have their turns under their other handles -/
theorem foldl_notify (h : Beside base k s t) (due : List Nat) :
    Beside base k ((due.filterMap fun i => spare k i id).foldl Store.notify s)
      (due.foldl Store.notify t) := by
  induction due generalizing s t with
  | nil => exact h
  | cons i due ih =>
    by_cases hi : i = k
    · have hskip : (i :: due).filterMap (fun i => spare k i id) =
          due.filterMap fun i => spare k i id := List.filterMap_cons_none (if_pos hi)
      rw [hskip, List.foldl_cons, hi]
      exact ih h.notify_self
    · have htell : (i :: due).filterMap (fun i => spare k i id) =
          past k i :: due.filterMap fun i => spare k i id := List.filterMap_cons_some (if_neg hi)
      rw [htell]
      exact ih (h.notify hi)

theorem process (h : Beside base k s t) (o : Origin) (a : Action) :
    Beside base k (s.process o a) (t.process o a) := by
  rw [Store.process_eq, Store.process_eq, h.subscribers, handles_without]
  exact (h.advance o a).foldl_notify _

theorem drain (h : Beside base k s t) : Beside base k s.drain t.drain := by
  fun_induction Store.drain s generalizing t with
  | case1 s hnil => rwa [Store.drain_of_pending_nil (h.pending ▸ hnil)]
  | case2 s a rest hcons ih =>
    rw [Store.drain_of_pending_cons (s := t) (h.pending ▸ hcons)]
    exact ih ((h.dequeued rest).process .queued a)

theorem dispatch (h : Beside base k s t) (a : Action) :
    Beside base k (s.dispatch a) (t.dispatch a) :=
  (h.process .dispatched a).drain

theorem select (h : Beside base k s t) (label : String) (project : State → V)
    (rs : List (Reaction V)) :
    Beside base k (s.select label project rs) (t.select label project rs) := by
  obtain ⟨hne, hnext⟩ := h.next
  unfold Store.select
  rw [h.state, ← hnext]
  exact (((h.deliver hne label _ rs).join label _).drain.dismiss fun _ _ => rfl).introduce hne _ _

theorem mount (h : Beside base k s t) (label : String) (sync : Synchronizer L) :
    Beside base k (s.mount label sync) (t.mount label sync) := by
  obtain ⟨hne, hnext⟩ := h.next
  unfold Store.mount
  rw [h.state, ← hnext]
  let told := sync.storeChanged t.state.activePlugin? t.state.routeReady
  have hheard := (h.note told.entries).record (others_wrote hne told.writes)
  exact ((hheard.join label _).drain.dismiss fun _ _ => rfl).introduce hne _ _

theorem apply (h : Beside base k s t) (op : StoreOp V L) :
    Beside base k (s.apply op) (t.apply op) := by
  cases op with
  | dispatch a => exact h.dispatch a
  | queue as => exact h.queue as
  | drain => exact h.drain
  | select label project rs => exact h.select label project rs
  | unsubscribe label => exact h.dismiss fun _ _ => rfl
  | mount label sync => exact h.mount label sync
  | unmount label => exact h.dismiss fun _ _ => rfl
  | edit label text => exact h.edit label text
  | linkChanged label => exact h.linkChanged label
  | nothing => exact h

theorem run (h : Beside base k s t) (ops : List (StoreOp V L)) :
    Beside base k (s.run ops) (t.run ops) :=
  List.foldl_rel h fun op _ _ _ h => h.apply op

end Beside

/-! ## coming and going -/

section
variable {label : String} {s u : Store V L}

theorem Store.dismiss_of_forall {p : Subscriber V L → Bool}
    (hp : ∀ x ∈ s.subscribers, p x = false) : s.dismiss p = s := by
  have hstay : s.entries.map (Entry.drop p) = s.entries := by
    refine (List.map_congr_left fun e he => ?_).trans (List.map_id _)
    unfold Entry.drop
    split
    · next hdrop =>
      -- the flag of such an entry is down already
      have hdown : e.active = false := by
        rw [Bool.eq_false_iff]
        intro hup
        have hmem : e.subscriber ∈ s.subscribers :=
          List.mem_map_of_mem (List.mem_filter.mpr ⟨he, hup⟩)
        exact Bool.false_ne_true ((hp _ hmem).symm.trans hdrop)
      rw [← hdown]
      rfl
    · rfl
  have hgo : s.subscribers.filter p = [] :=
    List.filter_eq_nil_iff.mpr fun x hx => by rw [hp x hx]; exact Bool.false_ne_true
  unfold Store.dismiss
  rw [hstay, hgo, List.map_nil, List.append_nil]

theorem Store.isSubscribed_eq_false : s.isSubscribed label = false ↔
    ∀ t ∈ s.tags, t.known = true → t.label = label → t.mount = true := by
  simp [Store.isSubscribed, Store.tags, Subscriber.tag, Subscriber.isSubscription,
    Subscriber.isNamed, Subscriber.isCalled]

theorem Store.isSubscribed_of_tags (hs : s.isSubscribed label = false) (htags : u.tags ⊆ s.tags) :
    u.isSubscribed label = false := by
  rw [isSubscribed_eq_false] at hs ⊢
  exact fun t ht => hs t (htags ht)

theorem Store.isSubscription_of_isSubscribed (hs : s.isSubscribed label = false)
    {x : Subscriber V L} (hx : x ∈ s.subscribers) : x.isSubscription label = false :=
  Bool.eq_false_iff.mpr (List.any_eq_false.mp hs x hx)

/-- the one that only listens goes -/
theorem Beside.goes {base : List (Happening V)} {k : Nat} {t : Store V L} (h : Beside base k s t)
    (hfree : s.isSubscribed label = false) : Beside base k s (t.unsubscribe label) := by
  have hnobody : s.unsubscribe label = s :=
    Store.dismiss_of_forall fun _ hx => Store.isSubscription_of_isSubscribed hfree hx
  have hgone : Beside base k (s.unsubscribe label) (t.unsubscribe label) := h.dismiss fun _ _ => rfl
  rwa [hnobody] at hgone

end

section
variable [DeepLinker L] [DecidableEq V] {label : String} {s : Store V L}

/-- nobody subscribes under a label but by selecting -/
theorem Store.isSubscribed_apply (hs : Roster s) (hfree : s.isSubscribed label = false)
    {op : StoreOp V L} (hop : ∀ project rs, op ≠ .select label project rs) :
    (s.apply op).isSubscribed label = false := by
  cases op with
  | dispatch a =>
    refine isSubscribed_of_tags hfree fun t ht => ?_
    rw [← tags_advance s .dispatched a]
    exact (ticks_dispatch s a).tags_subset ht
  | queue as => exact hfree
  | drain => exact isSubscribed_of_tags hfree (ticks_drain s).tags_subset
  | select name project rs =>
    rw [isSubscribed_eq_false] at hfree ⊢
    intro t ht hknown hlabel
    rcases mem_tags_select hs ht with ht | rfl
    · exact hfree t ht hknown hlabel
    · exact absurd (congrArg (StoreOp.select · project rs) hlabel) (hop project rs)
  | unsubscribe name =>
    exact isSubscribed_of_tags hfree ((asides_unsubscribe s name).ticks []).tags_subset
  | mount name sync =>
    rw [isSubscribed_eq_false] at hfree ⊢
    intro t ht hknown hlabel
    rcases mem_tags_mount hs ht with ht | rfl
    · exact hfree t ht hknown hlabel
    · rfl
  | unmount name => exact isSubscribed_of_tags hfree ((asides_unmount s name).ticks []).tags_subset
  | edit name text =>
    exact isSubscribed_of_tags hfree fun t ht => tags_edit s name text ▸ ht
  | linkChanged name =>
    exact isSubscribed_of_tags hfree ((asides_linkChanged s name).ticks []).tags_subset
  | nothing => exact hfree

theorem Store.isSubscribed_run (hs : Roster s) (hfree : s.isSubscribed label = false)
    {ops : List (StoreOp V L)} (hops : ∀ project rs, .select label project rs ∉ ops) :
    (s.run ops).isSubscribed label = false := by
  induction ops generalizing s with
  | nil => exact hfree
  | cons op ops ih =>
    have hop : ∀ project rs, op ≠ .select label project rs :=
      fun project rs e => hops project rs (e ▸ List.mem_cons_self ..)
    exact ih (roster_run hs [op]) (isSubscribed_apply hs hfree hop)
      fun project rs h => hops project rs (List.mem_cons_of_mem _ h)

namespace Beside

/-- one that only listens comes, when nothing waits -/
theorem comes (hs : Roster s) (hpending : s.pending = []) (hfree : s.isSubscribed label = false)
    (project : State → V) :
    Beside s.trace s.nextHandle s (s.select label project []) := by
  have hlt : ∀ x ∈ s.subscribers, x.handle < s.nextHandle := fun x hx =>
    (hs.mem_handles.mp (List.mem_map_of_mem hx)).1
  have hjoin : Beside s.trace s.nextHandle s
      ((s.deliver s.nextHandle label (project s.state) []).join label
        (.subscription project (project s.state) [])) := by
    refine ⟨rfl, rfl, rfl, ?_, rfl, Nat.le_refl _, fun x hx hk => ?_,
      [.delivered s.nextHandle label (project s.state)] ++ [.joined s.nextHandle], ?_, ?_⟩
    · rw [Store.subscribers_join]
      show s.subscribers = without s.nextHandle (s.subscribers ++ [⟨s.nextHandle, label, false, _⟩])
      rw [without_append, without_of_lt hlt]
      exact (List.append_nil _).symm.trans (congrArg _ (without_cons_self rfl []).symm)
    · rw [Store.subscribers_join] at hx
      rcases List.mem_append.mp hx with hx | hx
      · exact absurd hk (Nat.ne_of_lt (hlt x hx))
      · rw [List.mem_singleton.mp hx]
        exact ⟨project, project s.state, rfl⟩
    · exact List.append_assoc ..
    · rw [others_append, others_delivered_self, others_joined_self]
      exact (List.append_nil _).symm
  have hdrain := Store.drain_of_pending_nil (s := (s.deliver s.nextHandle label (project s.state)
    []).join label (.subscription project (project s.state) [])) hpending
  show Beside _ _ s
    (((Store.join _ label _).drain.unsubscribe label).introduce false label s.nextHandle)
  rw [List.map_nil, hdrain]
  exact (hjoin.goes hfree).introduce_self false label

end Beside

/-- of two that only listen, the one that comes first hears what it would hear coming second -/
theorem heard_exchange (hs : Roster s) (hpending : s.pending = [])
    (hfree : s.isSubscribed label = false) {label' : String}
    (hfree' : s.isSubscribed label' = false) (hne : label' ≠ label) (project project' : State → V)
    (ops : List (StoreOp V L)) :
    let u := ((s.select label project []).select label' project' []).run ops
    let v := ((s.select label' project' []).select label project []).run ops
    ∃ d e, u.trace = s.trace ++ d ∧ v.trace = s.trace ++ e ∧
      heard s.nextHandle d = heard (s.nextHandle + 1) e := by
  intro u v
  have hfirst := Beside.comes hs hpending hfree project
  have hroster : Roster (s.select label project []) := roster_run hs [.select label project []]
  have hname : ∀ p rs, StoreOp.select (L := L) label project [] ≠ .select label' p rs := by
    intro p rs e
    cases e
    exact hne rfl
  have hstill : (s.select label project []).isSubscribed label' = false :=
    Store.isSubscribed_apply hs hfree' hname
  -- both runs are compared to the one in which the other subscription never came
  have hsecond : Beside _ _ _ u :=
    (Beside.comes hroster (Store.pending_select ..) hstill project').run ops
  have hbefore : Beside _ _ _ v :=
    ((Beside.comes hs hpending hfree' project').select label project []).run ops
  obtain ⟨c, hc, -⟩ := hfirst.trace
  obtain ⟨d, hu, halone⟩ := hsecond.trace
  obtain ⟨e, hv, halone'⟩ := hbefore.trace
  rw [hfirst.nextHandle, hc, List.append_assoc] at halone
  rw [hc, List.append_assoc] at hu
  have hsame : others s.nextHandle e = c ++ others (s.nextHandle + 1) d :=
    List.append_cancel_left (halone'.symm.trans halone)
  refine ⟨c ++ d, e, hu, hv, ?_⟩
  calc heard s.nextHandle (c ++ d)
      = heard s.nextHandle (c ++ others (s.nextHandle + 1) d) := by
        have hd := heard_others (Nat.ne_of_lt (Nat.lt_succ_self s.nextHandle)) d
        rw [past_of_lt (Nat.lt_succ_self _)] at hd
        rw [heard_append, heard_append, hd]
    _ = heard (s.nextHandle + 1) e := by
        have he := heard_others (Nat.ne_of_gt (Nat.lt_succ_self s.nextHandle)) e
        rwa [past_succ (Nat.le_refl _), hsame] at he

/-- **Who only listens does not interfere.**  Let a subscription without reactions come when nothing
waits, under a label that is free, and let it go at any later time, or not at all, or let others
drop it.  Then nothing tells the others: the trace without what happens to it is the trace of the
run in which it never came, where later handles are one less.  So states, actions that wait, effects
and mounts are the same, and all other subscriptions hear the same in the same order.  If two of
them come one after the other, then each hears the same when they come in the other order. -/
theorem passive_select (state : State) (observers : List Observer) (before : List (StoreOp V L))
    (label : String) (project : State → V) :
    let s := (Store.new state observers : Store V L).run before
    let k := s.nextHandle
    let t := s.select label project []
    s.pending = [] → s.isSubscribed label = false →
    (∀ ops drop more,
      (drop = [] ∨ drop = [.unsubscribe label] ∧ ∀ p rs, .select label p rs ∉ ops) →
      let u := s.run (ops ++ more)
      let v := t.run (ops ++ drop ++ more)
      v.state = u.state ∧ v.pending = u.pending ∧ without k v.subscribers = u.subscribers ∧
      (∀ name, v.mounted? name = u.mounted? name) ∧
      ∃ d e, v.trace = s.trace ++ d ∧ u.trace = s.trace ++ e ∧ others k d = e ∧
        statesFrom s.state d = statesFrom s.state e ∧ effects d = effects e ∧
        ∀ h ≠ k, heard h d = heard (past k h) e) ∧
    ∀ label' project', label' ≠ label → s.isSubscribed label' = false → ∀ ops,
      let u := (t.select label' project' []).run ops
      let v := ((s.select label' project' []).select label project []).run ops
      ∃ d e, u.trace = s.trace ++ d ∧ v.trace = s.trace ++ e ∧
        heard k d = heard (k + 1) e ∧ heard (k + 1) d = heard k e := by
  intro s k t hpending hfree
  have hs : Roster s := roster_run (Roster.new state observers) before
  have hcomes : Beside s.trace k s t := Beside.comes hs hpending hfree project
  constructor
  · intro ops drop more hdrop u v
    have hdropped : Beside s.trace k (s.run ops) ((t.run ops).run drop) := by
      rcases hdrop with rfl | ⟨rfl, hops⟩
      · exact hcomes.run ops
      · exact (hcomes.run ops).goes (Store.isSubscribed_run hs hfree hops)
    have hbeside : Beside s.trace k u v := by
      show Beside _ _ (s.run (ops ++ more)) (t.run (ops ++ drop ++ more))
      rw [Store.run_append s ops, Store.run_append t (ops ++ drop), Store.run_append t ops]
      exact hdropped.run more
    obtain ⟨d, hv, hu⟩ := hbeside.trace
    refine ⟨hbeside.state.symm, hbeside.pending.symm, hbeside.subscribers.symm,
      hbeside.mounted?, d, others k d, hv, hu, rfl, ?_, (effects_others k d).symm,
      fun h hne => (heard_others hne d).symm⟩
    unfold statesFrom
    rw [processed_others]
  · intro label' project' hne hfree' ops u v
    obtain ⟨d, e, hu, hv, hfirst⟩ :=
      heard_exchange hs hpending hfree hfree' hne project project' ops
    obtain ⟨e', d', hv', hu', hsecond⟩ :=
      heard_exchange hs hpending hfree' hfree hne.symm project' project ops
    obtain rfl : d' = d := List.append_cancel_left (hu'.symm.trans hu)
    obtain rfl : e' = e := List.append_cancel_left (hv'.symm.trans hv)
    exact ⟨d', e', hu, hv, hfirst, hsecond.symm⟩

end

/-- one that only listens, next to a mount and one that reacts, until it goes; and two of them -/
theorem passive_select_dropped :
    let before : List (StoreOp String Remembered) := [.mount "m" (.new ⟨""⟩ "plugin" ""),
      .dispatch (.navigated "/"),
      .select "a" State.selection [.script (some "x") 1 [.pluginChanged "y"] [] [] []]]
    let ops : List (StoreOp String Remembered) := [.dispatch (.pluginChanged "x")]
    let more : List (StoreOp String Remembered) := [.dispatch (.pluginChanged "z")]
    let s := (Store.new State.initial [.logging] : Store String Remembered).run before
    let k := s.nextHandle
    let t := s.select "p" State.selection []
    let u := s.run (ops ++ more)
    let v := t.run (ops ++ [.unsubscribe "p"] ++ more)
    s.pending = [] ∧ s.isSubscribed "p" = false ∧ heard k v.trace = ["", "x", "y"] ∧
    v.mounted? "m" = u.mounted? "m" ∧
    (∃ d e, v.trace = s.trace ++ d ∧ u.trace = s.trace ++ e ∧ others k d = e ∧
      heard 1 d = heard (past k 1) e) ∧
    ∃ d e, ((t.select "q" (fun _ => "") []).run ops).trace = s.trace ++ d ∧
      (((s.select "q" (fun _ => "") []).select "p" State.selection []).run ops).trace =
        s.trace ++ e ∧
      heard k d = heard (k + 1) e ∧ heard (k + 1) d = heard k e := by
  intro before ops more s k t u v
  have hpending : s.pending = [] := by decide +kernel
  have hfree : s.isSubscribed "p" = false := by decide +kernel
  have hother : 1 ≠ k := by decide +kernel
  obtain ⟨hbeside, hexchange⟩ :=
    passive_select State.initial [.logging] before "p" State.selection hpending hfree
  obtain ⟨-, -, -, hmounted, d, e, hv, hu, hothers, -, -, hheard⟩ :=
    hbeside ops [.unsubscribe "p"] more (.inr ⟨rfl, by simp [ops]⟩)
  exact ⟨hpending, hfree, by decide +kernel, hmounted "m",
    ⟨d, e, hv, hu, hothers, hheard 1 hother⟩,
    hexchange "q" (fun _ => "") (by decide) (by decide +kernel) ops⟩

end TabShell

import TabShell.Fragment.Location
import TabShell.Proofs.Store.Order
/-!
# How long the loop of a call runs

A call that settles ends with a loop: while an action waits, the oldest is processed.  Subscribers
queue more actions meanwhile, but each of their reactions may run only so often, and a round takes
an action off the queue.

* `Drains`          the loop ends in a store after a number of rounds;
* `StoreOp.budget`  what the reactions of a subscription that comes can queue;
* `Store.opened`, `StoreOp.closing`   a call before its loop, and after it;
* `drains_drain`    the loop ends, after as many rounds as its weight allows;
* `rounds_apply`    what every call processes.
-/

namespace TabShell

variable {V L : Type}

/-- what the reactions of a subscription that comes can queue -/
def StoreOp.budget : StoreOp V L → Nat
  | .select _ _ reactions => total Reaction.budget reactions
  | _ => 0

/-- what is left to do when the loop of a call is over -/
def StoreOp.closing (k : Nat) (s : Store V L) : StoreOp V L → Store V L
  | .select label _ _ => (s.unsubscribe label).introduce false label k
  | .mount label _ => (s.unmount label).introduce true label k
  | _ => s

theorem processed_closing (k : Nat) (s : Store V L) (op : StoreOp V L) :
    processed (op.closing k s).trace = processed s.trace := by
  cases op with
  | select label project reactions => exact (Store.asides_unsubscribe s label).processed_eq
  | mount label sync => exact (Store.asides_unmount s label).processed_eq
  | _ => rfl

theorem budgetOf_append (xs ys : List (Subscriber V L)) :
    budgetOf (xs ++ ys) = budgetOf xs + budgetOf ys := by
  induction xs with
  | nil => exact (Nat.zero_add _).symm
  | cons x xs ih =>
    simp only [budgetOf, List.cons_append, total_cons] at ih ⊢
    omega

theorem weight_join (s : Store V L) (label : String) (l : Listener V L) :
    (s.join label l).weight = s.weight + l.budget := by
  have hjoin : (s.join label l).weight =
      s.pending.length + budgetOf (s.join label l).subscribers := rfl
  rw [hjoin, Store.subscribers_join, budgetOf_append]
  simp only [Store.weight, budgetOf, total, Subscriber.budget]
  omega

variable [DeepLinker L] [DecidableEq V]

/-- the loop, begun in a store, ends in another after a number of rounds -/
inductive Drains : Store V L → Nat → Store V L → Prop
  | done {s : Store V L} (idle : s.pending = []) : Drains s 0 s
  | round {s t : Store V L} {a : Action} {rest : List Action} {n : Nat}
      (waits : s.pending = a :: rest) (later : Drains ((s.dequeued rest).process .queued a) n t) :
      Drains s (n + 1) t

/-! ## one round -/

theorem processed_notify (s : Store V L) (k : Nat) :
    processed (s.notify k).trace = processed s.trace := by
  rw [Store.notify_eq_react, (Store.asides_react _ _).processed_eq]
  exact Store.filterMap_told (fun _ _ _ => rfl) (fun _ => rfl) (fun _ _ => rfl) s k

theorem processed_process (s : Store V L) (o : Origin) (a : Action) :
    processed (s.process o a).trace = processed s.trace ++ [a] := by
  have hnotify : ∀ (ks : List Nat) (t : Store V L),
      processed (ks.foldl Store.notify t).trace = processed t.trace := by
    intro ks
    induction ks with
    | nil => exact fun t => rfl
    | cons k ks ih => exact fun t => (ih (t.notify k)).trans (processed_notify t k)
  rw [Store.process_eq, hnotify, Store.trace_advance, processed_append, processed_action]

/-- in a cycle mounts queue nothing -/
theorem pending_notify_mount {s : Store V L} {k : Nat}
    (hk : ∀ l, s.listener? k = some l → l.isMount = true) :
    (s.notify k).pending = s.pending := by
  have hdeeds : s.deedsBy k = [] := by
    unfold Store.deedsBy
    cases hl : s.listener? k with
    | none => rfl
    | some l =>
      cases l with
      | subscription project last reactions => exact absurd (hk _ hl) Bool.false_ne_true
      | mount sync last => rfl
  rw [Store.notify_eq_react, hdeeds]
  exact Store.pending_told s k

/-! ## all rounds -/

namespace Drains

variable {s t : Store V L} {n : Nat}

/-- every round processes one action -/
theorem length_processed (h : Drains s n t) :
    (processed t.trace).length = (processed s.trace).length + n := by
  induction h with
  | done idle => rfl
  | round waits later ih =>
    rw [ih, processed_process, List.length_append]
    simp only [Store.trace_dequeued, List.length_singleton]
    omega

/-- every round takes weight away, whatever is queued meanwhile -/
theorem le_weight (h : Drains s n t) : n ≤ s.weight := by
  induction h with
  | done idle => exact Nat.zero_le _
  | round waits later ih => exact Nat.lt_of_le_of_lt ih (Store.weight_process_dequeued waits)

end Drains

theorem drains_drain (s : Store V L) : ∃ n, Drains s n s.drain := by
  fun_induction Store.drain s with
  | case1 s idle => exact ⟨0, .done idle⟩
  | case2 s a rest waits ih =>
    obtain ⟨n, hn⟩ := ih
    exact ⟨n + 1, .round waits hn⟩

/-! ## calls -/

/-- the store of a call when its loop begins -/
def Store.opened (s : Store V L) : StoreOp V L → Store V L
  | .dispatch a => s.process .dispatched a
  | .select label project reactions =>
    (s.deliver s.nextHandle label (project s.state) reactions).join label
      (.subscription project (project s.state)
        (reactions.map (Reaction.spend (project s.state))))
  | .mount label sync =>
    (s.greeted sync).join label
      (.mount (sync.storeChanged s.state.link.1 s.state.link.2).sync s.state.link)
  | _ => s

theorem apply_eq_closing (s : Store V L) {op : StoreOp V L} (hop : op.settles = true) :
    s.apply op = op.closing s.nextHandle (s.opened op).drain := by
  cases op with
  | dispatch a | drain | select label project reactions | mount label sync => rfl
  | queue as | unsubscribe label | unmount label | edit label text | linkChanged label | nothing =>
    cases hop

/-- before its loop begins, a call adds no weight but that of the subscription that comes -/
theorem weight_opened (s : Store V L) (op : StoreOp V L) :
    (s.opened op).weight ≤ s.weight + op.budget := by
  cases op with
  | dispatch a => exact Store.weight_process s .dispatched a
  | select label project reactions =>
    have hdeliver := Store.weight_deliver s s.nextHandle label (project s.state) reactions
    have hspend := Reaction.budget_spend_all (project s.state) reactions
    show ((s.deliver _ _ _ _).join label _).weight ≤ _
    rw [weight_join]
    simp only [Listener.budget, StoreOp.budget]
    omega
  | mount label sync =>
    show ((s.greeted sync).join label _).weight ≤ _
    rw [weight_join]
    exact Nat.le_refl _
  | _ => exact Nat.le_refl _

theorem processed_opened (s : Store V L) {op : StoreOp V L} (hop : op.settles = true) :
    processed (s.opened op).trace = processed s.trace ++ op.dispatched := by
  cases op with
  | dispatch a => exact processed_process s .dispatched a
  | drain => exact (List.append_nil _).symm
  | select label project reactions =>
    have hdeliver := (Store.asides_deliver s s.nextHandle label (project s.state)
      reactions).processed_eq
    show processed ((s.deliver _ _ _ _).join label _).trace = _
    rw [Store.trace_join, processed_append, hdeliver, Store.trace_record, processed_append,
      List.append_assoc]
    rfl
  | mount label sync => simp [Store.opened, Store.greeted, processed, StoreOp.dispatched,
      Function.comp_def, List.filterMap_cons]
  | queue as | unsubscribe label | unmount label | edit label text | linkChanged label | nothing =>
    cases hop

/-- **The loop of a call ends.**  In every store, whatever waits and whoever listens, the loop of a
dispatch, of a drain, and of a subscription or a mount that comes is over after some rounds.  Each
round processes one action, and there are no more of them than actions that wait and actions that
the reactions of those who listen, the new subscription among them, can still queue: of each
reaction the runs that are left, times what it queues and the mounts that it has report.  Mounts
themselves queue nothing when they are told of a state.  So if reactions have nothing to queue, what
is processed is the action of the call and what waited. -/
theorem rounds_apply (s : Store V L) {op : StoreOp V L} (hop : op.settles = true) :
    (∃ n t, Drains (s.opened op) n t ∧ s.apply op = op.closing s.nextHandle t ∧
      n ≤ s.pending.length + (budgetOf s.subscribers + op.budget) ∧
      (processed (s.apply op).trace).length =
        (processed s.trace).length + (op.dispatched.length + n)) ∧
    (∀ k, (∀ l, s.listener? k = some l → l.isMount = true) →
      (s.notify k).pending = s.pending) ∧
    (budgetOf s.subscribers + op.budget = 0 →
      processed (s.apply op).trace = processed s.trace ++ (op.dispatched ++ s.pending)) := by
  obtain ⟨n, hdrains⟩ := drains_drain (s.opened op)
  have happly := apply_eq_closing s hop
  have hrounds : n ≤ s.pending.length + (budgetOf s.subscribers + op.budget) := by
    have hweight := weight_opened s op
    have hn := hdrains.le_weight
    simp only [Store.weight] at hweight hn ⊢
    omega
  have hlength : (processed (s.apply op).trace).length =
      (processed s.trace).length + (op.dispatched.length + n) := by
    rw [happly, processed_closing, hdrains.length_processed, processed_opened s hop,
      List.length_append, Nat.add_assoc]
  refine ⟨⟨n, _, hdrains, happly, hrounds, hlength⟩, fun k => pending_notify_mount, ?_⟩
  intro hnone
  -- all that was sent was processed, and there were no rounds left for what reactions send
  obtain ⟨d, htrace, -, hfirst, horder⟩ := serves_apply s op
  have hpending : (s.apply op).pending = [] := pending_apply s hop
  rw [hpending, List.append_nil] at horder
  rw [htrace, processed_append, hfirst, horder] at hlength ⊢
  have hqueued : queued d = [] := by
    simp only [List.length_append] at hlength
    exact List.length_eq_zero_iff.mp (by omega)
  rw [hqueued, List.append_nil]

/-- a call whose reactions queue all that they can, a report of a mount among it -/
theorem rounds_apply_reported :
    let s := (Store.new State.initial [] : Store Nat Location).run
      [.mount "link" (Synchronizer.new Location.empty "p" ""),
       .select "count" (·.core.plugins.length) [.script none 2 [.reloadToggled] [] ["link"] []],
       .queue [.navigated "/"]]
    let op : StoreOp Nat Location := .dispatch (.listingLoaded ["a", "b"])
    op.settles = true ∧ s.pending.length = 1 ∧ budgetOf s.subscribers + op.budget = 2 ∧
    (∃ n t, Drains (s.opened op) n t ∧ s.apply op = op.closing s.nextHandle t ∧ n ≤ 1 + 2 ∧
      (processed (s.apply op).trace).length = (processed s.trace).length + (1 + n)) ∧
    (processed (s.apply op).trace).length = (processed s.trace).length + 4 := by
  intro s op
  have hpending : s.pending.length = 1 := by decide +kernel
  have hbudget : budgetOf s.subscribers + op.budget = 2 := by decide +kernel
  have hop : op.settles = true := rfl
  obtain ⟨hrounds, -, -⟩ := rounds_apply s hop
  rw [hpending, hbudget] at hrounds
  exact ⟨hop, hpending, hbudget, hrounds, by decide +kernel⟩

end TabShell

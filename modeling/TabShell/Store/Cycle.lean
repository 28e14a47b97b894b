import TabShell.Store.Basic
/-!
# Notification cycles

An action is processed by changing the state and then telling every subscriber, in the order of
registration, whose value has changed.  What subscribers queue meanwhile waits; `drain` processes
it until nothing waits any more.

Why `drain` ends: an action waits because it was queued, and reactions queue only as often as they
may run.  So `weight`, the actions that wait and those that the reactions could still queue, never
grows while an action is processed, and taking an action off the queue makes it smaller.

* `Store.act`, `Store.deliver`      a deed, and all those that a value sets off;
* `Store.notify`, `Store.process`   one subscriber told, and all of them after an action;
* `Store.weight`, `Store.drain`     the measure, and the loop;
* `weight_process`                  processing does not add weight.
-/

namespace TabShell

variable {V L : Type}

/-- how many actions a listener can still queue -/
def Listener.budget : Listener V L → Nat
  | subscription _ _ reactions => total Reaction.budget reactions
  | mount _ _ => 0

/-- how many actions a subscriber can still queue -/
def Subscriber.budget (x : Subscriber V L) : Nat := x.listener.budget

/-- how many actions a list of subscribers can still queue -/
def budgetOf (xs : List (Subscriber V L)) : Nat := total Subscriber.budget xs

theorem budgetOf_filter (p : Subscriber V L → Bool) (xs : List (Subscriber V L)) :
    budgetOf (xs.filter p) ≤ budgetOf xs := by
  induction xs with
  | nil => exact Nat.le_refl _
  | cons x xs ih =>
    by_cases h : p x = true
    · simp only [budgetOf, List.filter_cons_of_pos h, total_cons] at ih ⊢
      omega
    · simp only [budgetOf, List.filter_cons_of_neg h, total_cons] at ih ⊢
      omega

theorem budgetOf_updateFirst {handle : Nat} {f : Listener V L → Listener V L}
    {xs : List (Subscriber V L)} {x : Subscriber V L}
    (h : xs.find? (fun y => decide (y.handle = handle)) = some x) :
    budgetOf (updateFirst handle (Subscriber.relisten f) xs) + x.budget =
      budgetOf xs + (f x.listener).budget := by
  induction xs with
  | nil => simp at h
  | cons y ys ih =>
    by_cases hy : y.handle = handle
    · simp only [List.find?_cons, hy, decide_true, Option.some.injEq] at h
      subst h
      simp only [updateFirst, hy, if_true, budgetOf, total_cons, Subscriber.budget,
        Subscriber.relisten]
      omega
    · simp only [List.find?_cons, hy, decide_false] at h
      have := ih h
      simp only [updateFirst, hy, if_false, budgetOf, total_cons] at this ⊢
      omega

namespace Store

/-- the actions that wait, and those that reactions can still queue -/
def weight (s : Store V L) : Nat := s.pending.length + budgetOf s.subscribers

/-- what waits and what listens make up the weight, whatever else changes -/
theorem weight_record (s : Store V L) (hs : List (Happening V)) :
    (s.record hs).weight = s.weight := rfl

theorem weight_note (s : Store V L) (entries : List LogEntry) :
    (s.note entries).weight = s.weight := rfl

theorem weight_queue (s : Store V L) (as : List Action) :
    (s.queue as).weight = s.weight + as.length := by
  have hqueue : (s.queue as).weight = (s.pending ++ as).length + budgetOf s.subscribers := rfl
  rw [hqueue, List.length_append, weight]
  omega

theorem weight_dismiss (s : Store V L) (p : Subscriber V L → Bool) :
    (s.dismiss p).weight ≤ s.weight := by
  have hdismiss : (s.dismiss p).weight = s.pending.length + budgetOf (s.dismiss p).subscribers :=
    rfl
  rw [hdismiss, subscribers_dismiss]
  exact Nat.add_le_add_left (budgetOf_filter _ _) _

theorem weight_update (s : Store V L) (handle : Nat) (f : Listener V L → Listener V L) :
    (s.update handle f).weight =
      s.pending.length + budgetOf (updateFirst handle (Subscriber.relisten f) s.subscribers) := by
  rw [← subscribers_update]
  rfl

variable [DeepLinker L]

/-- one deed -/
def act (s : Store V L) : Deed → Store V L
  | .queue a => s.queue [a]
  | .unsubscribe label => s.unsubscribe label
  | .linkChanged label => s.linkChanged label
  | .unmount label => s.unmount label

/-- deeds one after the other -/
def react (s : Store V L) (ds : List Deed) : Store V L := ds.foldl act s

theorem weight_linkChanged (s : Store V L) (label : String) :
    (s.linkChanged label).weight ≤ s.weight + 1 := by
  unfold linkChanged
  split
  · rw [weight_queue, weight_note]
    exact Nat.le_refl _
  · omega

theorem weight_act (s : Store V L) (d : Deed) : (s.act d).weight ≤ s.weight + d.cost := by
  cases d with
  | queue a => exact Nat.le_of_eq (weight_queue s [a])
  | unsubscribe label => exact weight_dismiss s _
  | linkChanged label => exact weight_linkChanged s label
  | unmount label => exact weight_dismiss s _

theorem weight_react (s : Store V L) (ds : List Deed) :
    (s.react ds).weight ≤ s.weight + total Deed.cost ds := by
  induction ds generalizing s with
  | nil => exact Nat.le_refl _
  | cons d ds ih =>
    have hds := ih (s.act d)
    have hd := weight_act s d
    show ((s.act d).react ds).weight ≤ _
    rw [total_cons]
    omega

/-- a value is heard, and sets reactions off -/
def deliver (s : Store V L) (handle : Nat) (label : String) (v : V)
    (reactions : List (Reaction V)) : Store V L :=
  (s.record [.delivered handle label v]).react (reactions.flatMap (Reaction.deedsAt v))

theorem weight_deliver (s : Store V L) (handle : Nat) (label : String) (v : V)
    (reactions : List (Reaction V)) :
    (s.deliver handle label v reactions).weight ≤
      s.weight + total Deed.cost (reactions.flatMap (Reaction.deedsAt v)) :=
  weight_react _ _

variable [DecidableEq V]

/-- the subscriber of a handle is told of the state if its value changed.  Its entry may not be
active any more: one that was told earlier in the cycle may have dropped it -/
def notify (s : Store V L) (handle : Nat) : Store V L :=
  match s.entries.find? (·.answers handle) with
  | none => s
  | some e =>
    match e.subscriber.listener with
    | .subscription project last reactions =>
      let v := project s.state
      if v = last then s
      else
        (s.update handle fun _ =>
          .subscription project v (reactions.map (Reaction.spend v))).deliver handle
            e.subscriber.label v reactions
    | .mount sync last =>
      let now := (s.state.activePlugin?, s.state.routeReady)
      if now = last then s
      else
        let r := sync.storeChanged now.1 now.2
        ((s.update handle fun _ => .mount r.sync now).note r.entries).record
          (r.writes.map (.wrote handle))

/-- telling a subscriber in terms of those who listen -/
theorem notify_eq (s : Store V L) (handle : Nat) :
    s.notify handle =
      match s.subscribers.find? fun x => decide (x.handle = handle) with
      | none => s
      | some x =>
        match x.listener with
        | .subscription project last reactions =>
          if project s.state = last then s
          else
            (s.update handle fun _ => .subscription project (project s.state)
              (reactions.map (Reaction.spend (project s.state)))).deliver handle x.label
                (project s.state) reactions
        | .mount sync last =>
          if (s.state.activePlugin?, s.state.routeReady) = last then s
          else
            let r := sync.storeChanged s.state.activePlugin? s.state.routeReady
            ((s.update handle fun _ => .mount r.sync
              (s.state.activePlugin?, s.state.routeReady)).note r.entries).record
                (r.writes.map (.wrote handle)) := by
  have hfind := Entry.find?_answers handle s.entries
  unfold notify subscribers
  rw [← hfind]
  cases s.entries.find? (·.answers handle) <;> rfl

/-- the state changes, as the observers see, and entries that are not active are forgotten -/
def advance (s : Store V L) (origin : Origin) (a : Action) : Store V L :=
  { s with
    state := reduce s.state a
    observers := s.observers.map (·.next a)
    entries := s.entries.filter (·.active)
    trace := s.trace ++
      .processed origin a :: (transitionEffects s.observers s.state a).map .effect }

/-- the state changes, then all whose entries are left are told -/
def process (s : Store V L) (origin : Origin) (a : Action) : Store V L :=
  ((s.advance origin a).entries.map (·.subscriber.handle)).foldl notify (s.advance origin a)

omit [DecidableEq V] [DeepLinker L] in
@[simp] theorem subscribers_advance (s : Store V L) (origin : Origin) (a : Action) :
    (s.advance origin a).subscribers = s.subscribers :=
  Entry.live_filter s.entries

theorem process_eq (s : Store V L) (origin : Origin) (a : Action) :
    s.process origin a =
      (s.subscribers.map (·.handle)).foldl notify (s.advance origin a) := by
  have hhandles : (s.advance origin a).entries.map (·.subscriber.handle) =
      s.subscribers.map (·.handle) := (List.map_map ..).symm
  unfold process
  rw [hhandles]

theorem weight_notify (s : Store V L) (handle : Nat) : (s.notify handle).weight ≤ s.weight := by
  rw [notify_eq]
  split
  · exact Nat.le_refl _
  · rename_i x hx
    split
    · rename_i project last reactions hl
      split
      · exact Nat.le_refl _
      · have hd := weight_deliver (s.update handle fun _ => .subscription project
          (project s.state) (reactions.map (Reaction.spend (project s.state)))) handle x.label
          (project s.state) reactions
        have hu := budgetOf_updateFirst (f := fun _ => .subscription project (project s.state)
          (reactions.map (Reaction.spend (project s.state)))) hx
        have hs := Reaction.budget_spend_all (project s.state) reactions
        have hupdate := weight_update s handle fun _ => .subscription project (project s.state)
          (reactions.map (Reaction.spend (project s.state)))
        simp only [weight, Subscriber.budget, hl, Listener.budget] at hd hu hupdate ⊢
        omega
    · rename_i sync last hl
      split
      · exact Nat.le_refl _
      · have hu := budgetOf_updateFirst (f := fun _ => .mount
          (sync.storeChanged s.state.activePlugin? s.state.routeReady).sync
          (s.state.activePlugin?, s.state.routeReady)) hx
        have hupdate := weight_update s handle fun _ => .mount
          (sync.storeChanged s.state.activePlugin? s.state.routeReady).sync
          (s.state.activePlugin?, s.state.routeReady)
        simp only [weight_record, weight_note]
        simp only [weight, Subscriber.budget, hl, Listener.budget] at hu hupdate ⊢
        omega

theorem weight_foldl_notify (handles : List Nat) (s : Store V L) :
    (handles.foldl notify s).weight ≤ s.weight := by
  induction handles generalizing s with
  | nil => exact Nat.le_refl _
  | cons h handles ih => exact Nat.le_trans (ih _) (weight_notify s h)

theorem weight_process (s : Store V L) (origin : Origin) (a : Action) :
    (s.process origin a).weight ≤ s.weight := by
  have hadvance : (s.advance origin a).weight = s.weight := by
    unfold weight
    rw [subscribers_advance]
    rfl
  exact hadvance ▸ weight_foldl_notify _ (s.advance origin a)

/-- the store without the oldest action that waits -/
def dequeued (s : Store V L) (rest : List Action) : Store V L := { s with pending := rest }

theorem weight_process_dequeued {s : Store V L} {a : Action} {rest : List Action}
    (h : s.pending = a :: rest) : ((s.dequeued rest).process .queued a).weight < s.weight := by
  have hprocess := weight_process (s.dequeued rest) .queued a
  have hdequeued : (s.dequeued rest).weight = rest.length + budgetOf s.subscribers := rfl
  have hweight : s.weight = (rest.length + 1) + budgetOf s.subscribers := by
    rw [weight, h, List.length_cons]
  omega

/-- actions are processed, oldest first, until none waits -/
def drain (s : Store V L) : Store V L :=
  match _h : s.pending with
  | [] => s
  | a :: rest => drain ((s.dequeued rest).process .queued a)
  termination_by s.weight
  decreasing_by exact weight_process_dequeued _h

theorem drain_of_pending_nil {s : Store V L} (h : s.pending = []) : s.drain = s := by
  rw [drain]
  split
  · rfl
  · simp_all

theorem drain_of_pending_cons {s : Store V L} {a : Action} {rest : List Action}
    (h : s.pending = a :: rest) : s.drain = ((s.dequeued rest).process .queued a).drain := by
  rw [drain]
  split
  · simp_all
  · rename_i b more hb
    rw [h] at hb
    injection hb with hb1 hb2
    subst hb1 hb2
    rfl

theorem pending_drain (s : Store V L) : s.drain.pending = [] := by
  fun_induction drain s with
  | case1 s h => exact h
  | case2 s a rest h ih => exact ih

/-- an action, and everything that it leads to -/
def dispatch (s : Store V L) (a : Action) : Store V L := (s.process .dispatched a).drain

end Store

end TabShell

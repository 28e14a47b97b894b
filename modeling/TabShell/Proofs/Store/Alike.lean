import TabShell.Proofs.Store.Changes
/-!
# Stores that differ in their observers

Observers are shown every transition and only ask for effects.  Two stores that differ in nothing
else do the same, step by step, so nothing but effects tells which observers there are.

* `plain`        a trace without what was logged and sent; all other views of a trace are views of
                 it;
* `Alike`        two stores that differ in their observers, and in what was logged and sent;
* `Alike.run`    operations keep them alike.
-/

namespace TabShell

variable {V L : Type}

/-- a trace without what was logged and sent -/
def plain (t : List (Happening V)) : List (Happening V) := t.filter fun x => x.effect?.isNone

theorem plain_append (t u : List (Happening V)) : plain (t ++ u) = plain t ++ plain u :=
  List.filter_append ..

theorem plain_effects (es : List Effect) :
    plain (es.map (.effect : Effect → Happening V)) = [] := by
  simp [plain]

theorem plain_notes (entries : List LogEntry) :
    plain (entries.map fun e => (.effect (.note e) : Happening V)) = [] := by
  have h := plain_effects (V := V) (entries.map .note)
  rwa [List.map_map] at h

/-- what does not look at effects looks at the plain trace -/
theorem filterMap_plain {β : Type} {f : Happening V → Option β} (hf : ∀ e, f (.effect e) = none)
    (t : List (Happening V)) : (plain t).filterMap f = t.filterMap f := by
  induction t with
  | nil => rfl
  | cons x t ih =>
    cases x with
    | effect e => exact ih.trans (List.filterMap_cons_none (hf e)).symm
    | _ =>
      show (_ :: plain t).filterMap f = _
      rw [List.filterMap_cons, ih, List.filterMap_cons]

theorem processed_plain (t : List (Happening V)) : processed (plain t) = processed t :=
  filterMap_plain (fun _ => rfl) t

theorem deliveries_plain (t : List (Happening V)) : deliveries (plain t) = deliveries t :=
  filterMap_plain (fun _ => rfl) t

/-- two stores that differ only in their observers, and in what was logged and sent -/
structure Alike (s t : Store V L) : Prop where
  state : s.state = t.state
  pending : s.pending = t.pending
  entries : s.entries = t.entries
  nextHandle : s.nextHandle = t.nextHandle
  trace : plain s.trace = plain t.trace

namespace Alike

variable {s t : Store V L}

theorem new (state : State) (observers observers' : List Observer) :
    Alike (Store.new state observers : Store V L) (Store.new state observers') :=
  ⟨rfl, rfl, rfl, rfl, rfl⟩

theorem subscribers (h : Alike s t) : s.subscribers = t.subscribers := congrArg Entry.live h.entries

theorem subscriberCount (h : Alike s t) : s.subscriberCount = t.subscriberCount :=
  congrArg (fun es => (es.filter (·.active)).length) h.entries

/-- the same happens in both, up to effects -/
theorem record (h : Alike s t) {hs ht : List (Happening V)} (hplain : plain hs = plain ht) :
    Alike (s.record hs) (t.record ht) := by
  refine ⟨h.state, h.pending, h.entries, h.nextHandle, ?_⟩
  rw [Store.trace_record, Store.trace_record, plain_append, plain_append, h.trace, hplain]

theorem note (h : Alike s t) (entries entries' : List LogEntry) :
    Alike (s.note entries) (t.note entries') :=
  h.record ((plain_notes entries).trans (plain_notes entries').symm)

theorem queue (h : Alike s t) (as : List Action) : Alike (s.queue as) (t.queue as) := by
  refine ⟨h.state, congrArg (· ++ as) h.pending, h.entries, h.nextHandle, ?_⟩
  rw [Store.trace_queue, Store.trace_queue, plain_append, plain_append, h.trace]

theorem dismiss (h : Alike s t) (p : Subscriber V L → Bool) :
    Alike (s.dismiss p) (t.dismiss p) := by
  refine ⟨h.state, h.pending, congrArg (List.map (Entry.drop p)) h.entries, h.nextHandle, ?_⟩
  rw [Store.trace_dismiss, Store.trace_dismiss, plain_append, plain_append, h.trace, h.subscribers]

theorem update (h : Alike s t) (k : Nat) (f : Listener V L → Listener V L) :
    Alike (s.update k f) (t.update k f) :=
  ⟨h.state, h.pending, congrArg (Entry.update k (Subscriber.relisten f)) h.entries, h.nextHandle,
    h.trace⟩

theorem alter (h : Alike s t) (f : Subscriber V L → Subscriber V L) :
    Alike (s.alter f) (t.alter f) :=
  ⟨h.state, h.pending, congrArg (List.map (Entry.alter f)) h.entries, h.nextHandle, h.trace⟩

theorem join (h : Alike s t) (label : String) (l : Listener V L) :
    Alike (s.join label l) (t.join label l) := by
  refine ⟨h.state, h.pending, ?_, congrArg (· + 1) h.nextHandle, ?_⟩
  · unfold Store.join
    rw [h.entries, h.nextHandle]
  · rw [Store.trace_join, Store.trace_join, plain_append, plain_append, h.trace, h.nextHandle]

theorem introduce (h : Alike s t) (mount : Bool) (label : String) (k : Nat) :
    Alike (s.introduce mount label k) (t.introduce mount label k) :=
  h.alter _

theorem dequeued (h : Alike s t) (rest : List Action) :
    Alike (s.dequeued rest) (t.dequeued rest) :=
  ⟨h.state, rfl, h.entries, h.nextHandle, h.trace⟩

/-- the observers see the action and ask for what they like -/
theorem advance (h : Alike s t) (o : Origin) (a : Action) :
    Alike (s.advance o a) (t.advance o a) := by
  have hentries : s.entries.filter (·.active) = t.entries.filter (·.active) := by rw [h.entries]
  refine ⟨congrArg (reduce · a) h.state, h.pending, hentries, h.nextHandle, ?_⟩
  rw [Store.trace_advance, Store.trace_advance, List.append_cons, plain_append, plain_append,
    plain_effects, List.append_cons t.trace, plain_append, plain_append, plain_effects, h.trace]

theorem mounted? (h : Alike s t) (label : String) : s.mounted? label = t.mounted? label := by
  unfold Store.mounted?
  rw [h.subscribers]

variable [DeepLinker L]

theorem edit (h : Alike s t) (label text : String) :
    Alike (s.edit label text) (t.edit label text) :=
  h.alter _

theorem linkChanged (h : Alike s t) (label : String) :
    Alike (s.linkChanged label) (t.linkChanged label) := by
  unfold Store.linkChanged
  rw [h.mounted? label]
  cases t.mounted? label with
  | none => exact h
  | some sync => exact (h.note _ _).queue _

theorem act (h : Alike s t) (d : Deed) : Alike (s.act d) (t.act d) := by
  cases d with
  | queue a => exact h.queue [a]
  | unsubscribe label => exact h.dismiss _
  | linkChanged label => exact h.linkChanged label
  | unmount label => exact h.dismiss _

theorem react (h : Alike s t) (ds : List Deed) : Alike (s.react ds) (t.react ds) :=
  List.foldl_rel h fun d _ _ _ h => h.act d

theorem deliver (h : Alike s t) (k : Nat) (label : String) (v : V) (rs : List (Reaction V)) :
    Alike (s.deliver k label v rs) (t.deliver k label v rs) :=
  (h.record rfl).react _

variable [DecidableEq V]

theorem notify (h : Alike s t) (k : Nat) : Alike (s.notify k) (t.notify k) := by
  unfold Store.notify
  rw [h.entries, h.state]
  cases t.entries.find? (·.answers k) with
  | none => exact h
  | some e =>
    obtain ⟨active, handle, label, known, listener⟩ := e
    cases listener with
    | subscription project last reactions =>
      simp only
      split
      · exact h
      · exact (h.update k _).deliver k _ _ _
    | mount sync last =>
      simp only
      split
      · exact h
      · exact ((h.update k _).note _ _).record rfl

theorem process (h : Alike s t) (o : Origin) (a : Action) :
    Alike (s.process o a) (t.process o a) := by
  have hadvance := h.advance o a
  unfold Store.process
  rw [hadvance.entries]
  exact List.foldl_rel hadvance fun k _ _ _ h => h.notify k

theorem drain (h : Alike s t) : Alike s.drain t.drain := by
  fun_induction Store.drain s generalizing t with
  | case1 s hnil => rwa [Store.drain_of_pending_nil (h.pending ▸ hnil)]
  | case2 s a rest hcons ih =>
    rw [Store.drain_of_pending_cons (s := t) (h.pending ▸ hcons)]
    exact ih ((h.dequeued rest).process .queued a)

theorem dispatch (h : Alike s t) (a : Action) : Alike (s.dispatch a) (t.dispatch a) :=
  (h.process .dispatched a).drain

theorem select (h : Alike s t) (label : String) (project : State → V) (rs : List (Reaction V)) :
    Alike (s.select label project rs) (t.select label project rs) := by
  unfold Store.select
  rw [h.state, h.nextHandle]
  exact (((h.deliver _ label _ rs).join label _).drain.dismiss _).introduce _ _ _

theorem mount (h : Alike s t) (label : String) (sync : Synchronizer L) :
    Alike (s.mount label sync) (t.mount label sync) := by
  unfold Store.mount
  rw [h.state, h.nextHandle]
  exact (((((h.note _ _).record rfl).join label _).drain).dismiss _).introduce _ _ _

theorem apply (h : Alike s t) (op : StoreOp V L) : Alike (s.apply op) (t.apply op) := by
  cases op with
  | dispatch a => exact h.dispatch a
  | queue as => exact h.queue as
  | drain => exact h.drain
  | select label project rs => exact h.select label project rs
  | unsubscribe label => exact h.dismiss _
  | mount label sync => exact h.mount label sync
  | unmount label => exact h.dismiss _
  | edit label text => exact h.edit label text
  | linkChanged label => exact h.linkChanged label
  | nothing => exact h

theorem run (h : Alike s t) (ops : List (StoreOp V L)) : Alike (s.run ops) (t.run ops) :=
  List.foldl_rel h fun op _ _ _ h => h.apply op

end Alike

end TabShell

import TabShell.Proofs.Store.Tick
import TabShell.Proofs.Store.Views
/-!
# The order of actions

Actions come to their turn one after the other, whoever sent them.

* `Serves`          a call processes an action of its own first, and then those that wait in the
                    order in which they were sent;
* `Folds`           the state, the observers and the events are those of the reducer and its
                    observers, run over all that was processed;
* `serves_apply`, `folds_run`   every call serves, and every run folds;
* `run_linear`      a run of a store is one fold in an order of its own.
-/

namespace TabShell

variable {V L : Type}

/-- the action that a call processes itself -/
def StoreOp.dispatched : StoreOp V L → List Action
  | .dispatch a => [a]
  | _ => []

/-- whether a call processes all that waits before it returns -/
def StoreOp.settles : StoreOp V L → Bool
  | .dispatch _ | .drain | .select _ _ _ | .mount _ _ => true
  | _ => false

/-- from one store to another `lead` is processed, and then actions that waited or were sent
meanwhile, in the order in which they were sent -/
def Serves (lead : List Action) (s t : Store V L) : Prop :=
  ∃ d, t.trace = s.trace ++ d ∧ processedFrom .dispatched d = lead ∧
    processed d = lead ++ processedFrom .queued d ∧
    processedFrom .queued d ++ t.pending = s.pending ++ queued d

/-- what was processed makes the state, the observers and the events -/
structure Folds (start : Observed) (s : Store V L) : Prop where
  state : s.state = (transitions start (processed s.trace)).state
  observers : s.observers = (transitions start (processed s.trace)).observers
  events : sent (effects s.trace) = sent (transitions start (processed s.trace)).effects

/-! ## what one call serves -/

theorem Serves.refl (s : Store V L) : Serves [] s s :=
  ⟨[], by simp, rfl, rfl, by simp [processedFrom, queued]⟩

theorem Serves.trans {lead : List Action} {r s t : Store V L} (h : Serves lead r s)
    (h' : Serves [] s t) : Serves lead r t := by
  obtain ⟨d, htrace, hlead, hfirst, horder⟩ := h
  obtain ⟨d', htrace', hlead', hfirst', horder'⟩ := h'
  refine ⟨d ++ d', by rw [htrace', htrace, List.append_assoc], ?_, ?_, ?_⟩
  · rw [processedFrom_append, hlead, hlead', List.append_nil]
  · rw [processed_append, hfirst, hfirst', processedFrom_append, List.nil_append, List.append_assoc]
  · rw [processedFrom_append, List.append_assoc, horder', ← List.append_assoc, horder, queued_append,
      List.append_assoc]

theorem processedFrom_eq_nil {d : List (Happening V)} (h : processed d = []) (o : Origin) :
    processedFrom o d = [] := by
  have hperm := processed_perm d
  rw [h] at hperm
  have hnil := List.append_eq_nil_iff.mp hperm.symm.eq_nil
  cases o
  · exact hnil.1
  · exact hnil.2

/-- what adds no action to the trace and leaves those that wait serves nothing -/
theorem serves_nothing {s t : Store V L} {d : List (Happening V)} (htrace : t.trace = s.trace ++ d)
    (hpending : t.pending = s.pending ++ queued d) (hprocessed : processed d = []) :
    Serves [] s t := by
  have hfrom := processedFrom_eq_nil hprocessed
  exact ⟨d, htrace, hfrom _, by rw [hprocessed, hfrom]; rfl, by rw [hpending, hfrom]; rfl⟩

theorem serves_aside {s t : Store V L} (h : Aside s t) : Serves [] s t := by
  cases h with
  | queue as =>
    exact serves_nothing (Store.trace_queue s as)
      (by simp [queued, Store.queue, Function.comp_def]) (by simp [processed, Function.comp_def])
  | note entries =>
    exact serves_nothing (Store.trace_note s entries)
      (by simp [queued, Store.note, Store.record, Function.comp_def])
      (by simp [processed, Function.comp_def])
  | drop mount label =>
    exact serves_nothing (Store.trace_dismiss s _)
      (by simp [queued, Store.dismiss, Function.comp_def]) (by simp [processed, Function.comp_def])

theorem serves_wrote (s : Store V L) (h : Nat) (ws : List Write) :
    Serves [] s (s.record (ws.map (.wrote h))) :=
  serves_nothing (Store.trace_record s _) (by simp [queued, Store.record, Function.comp_def])
    (by simp [processed, Function.comp_def])

/-- an action that is dispatched comes before all that waits -/
theorem serves_dispatched (s : Store V L) (a : Action) :
    Serves [a] s (s.advance .dispatched a) := by
  refine ⟨_, Store.trace_advance s .dispatched a, ?_, ?_, ?_⟩
  · simp [processedFrom, Function.comp_def]
  · rw [processed_action]
    simp [processedFrom, Function.comp_def]
  · simp [processedFrom, queued, Store.advance, Function.comp_def, List.filterMap_cons]

/-- the oldest action that waits is taken -/
theorem serves_queued {s : Store V L} {a : Action} {rest : List Action}
    (h : s.pending = a :: rest) : Serves [] s ((s.dequeued rest).advance .queued a) := by
  refine ⟨_, Store.trace_advance (s.dequeued rest) .queued a, ?_, ?_, ?_⟩
  · simp [processedFrom, Function.comp_def]
  · rw [processed_action]
    simp [processedFrom, Function.comp_def]
  · simp [processedFrom, queued, Store.advance, Store.dequeued, h, Function.comp_def,
      List.filterMap_cons]

theorem dispatched_eq_nil {op : StoreOp V L} (h : ∀ a, op ≠ .dispatch a) : op.dispatched = [] := by
  cases op with
  | dispatch a => exact absurd rfl (h a)
  | _ => rfl

section
variable [DeepLinker L]

theorem serves_edit (s : Store V L) (label text : String) : Serves [] s (s.edit label text) :=
  serves_nothing (d := []) (by simp) (by simp [queued, Store.edit, Store.alter]) rfl

variable [DecidableEq V]

theorem serves_tick {m m' : Moment V L} (h : Tick m m') : Serves [] m.store m'.store := by
  cases h with
  | aside due h => exact serves_aside h
  | pass s h due current => exact Serves.refl s
  | hear s h due label project last reactions listens changed =>
    exact serves_nothing (Store.trace_record _ _) (List.append_nil _).symm rfl
  | write s h due sync last listens changed =>
    have hupdate : Serves [] s (s.update h fun _ => .mount (sync.storeChanged s.state.link.1
        s.state.link.2).sync s.state.link) :=
      serves_nothing (d := []) (by simp) (List.append_nil _).symm rfl
    exact (hupdate.trans (serves_aside (.note _ _))).trans (serves_wrote _ h _)
  | take s a rest waits => exact serves_queued waits

theorem serves_step {m m' : Moment V L} (h : Step m m') : Serves [] m.store m'.store := by
  cases h with
  | tick h => exact serves_tick h
  | greet s label v => exact serves_nothing (Store.trace_record _ _) (List.append_nil _).symm rfl
  | greetMount s ws => exact serves_wrote s s.nextHandle ws
  | join s label l => exact serves_nothing (Store.trace_join _ _ _) (List.append_nil _).symm rfl
  | introduce s mount label h free => exact serves_nothing (d := []) (by simp) (List.append_nil _).symm rfl

theorem serves_steps {m m' : Moment V L} (h : Store.Steps m m') : Serves [] m.store m'.store :=
  h.preserve (P := fun x => Serves [] m.store x.store) (fun _ _ hx hm => hm.trans (serves_step hx))
    (Serves.refl _)

/-- what a call processes, and in what order -/
theorem serves_apply (s : Store V L) (op : StoreOp V L) : Serves op.dispatched s (s.apply op) := by
  rcases s.steps_apply op with ⟨a, rfl, h⟩ | ⟨label, text, rfl⟩ | ⟨hop, h⟩
  · exact (serves_dispatched s a).trans (serves_steps h.steps)
  · exact serves_edit s label text
  · rw [dispatched_eq_nil hop]
    exact serves_steps h

end

/-! ## one fold -/

theorem transitions_concat (start : Observed) (as : List Action) (a : Action) :
    transitions start (as ++ [a]) = transition (transitions start as) a :=
  transitions_append start as [a]

theorem Folds.new (state : State) (observers : List Observer) :
    Folds ⟨state, observers, []⟩ (Store.new state observers : Store V L) :=
  ⟨rfl, rfl, rfl⟩

/-- what adds neither actions nor events leaves the fold as it is -/
theorem Folds.keep {start : Observed} {s t : Store V L} (h : Folds start s)
    {d : List (Happening V)} (htrace : t.trace = s.trace ++ d) (hstate : t.state = s.state)
    (hobservers : t.observers = s.observers) (hprocessed : processed d = [])
    (hevents : sent (effects d) = []) : Folds start t := by
  have hsame : processed t.trace = processed s.trace := by
    rw [htrace, processed_append, hprocessed, List.append_nil]
  refine ⟨?_, ?_, ?_⟩
  · rw [hstate, hsame, h.state]
  · rw [hobservers, hsame, h.observers]
  · rw [hsame, htrace, effects_append, sent_append, hevents, List.append_nil, h.events]

theorem Folds.aside {start : Observed} {s t : Store V L} (h : Folds start s) (hst : Aside s t) :
    Folds start t := by
  cases hst with
  | queue as =>
    exact h.keep (Store.trace_queue s as) rfl rfl (by simp [processed, Function.comp_def])
      (by simp [effects, sent, Function.comp_def])
  | note entries =>
    exact h.keep (Store.trace_note s entries) rfl rfl (by simp [processed, Function.comp_def])
      (by simp [effects, sent, Function.comp_def])
  | drop mount label =>
    exact h.keep (Store.trace_dismiss s _) rfl rfl (by simp [processed, Function.comp_def])
      (by simp [effects, sent, Function.comp_def])

theorem Folds.wrote {start : Observed} {s : Store V L} (h : Folds start s) (k : Nat)
    (ws : List Write) : Folds start (s.record (ws.map (.wrote k))) :=
  h.keep (Store.trace_record s _) rfl rfl (by simp [processed, Function.comp_def])
    (by simp [effects, sent, Function.comp_def])

/-- an action that is processed is one more step of the fold -/
theorem Folds.advance {start : Observed} {s : Store V L} (h : Folds start s) (o : Origin)
    (a : Action) : Folds start (s.advance o a) := by
  have hprocessed : processed (s.advance o a).trace = processed s.trace ++ [a] := by
    rw [Store.trace_advance, processed_append, processed_action]
  have heffects : effects (s.advance o a).trace =
      effects s.trace ++ transitionEffects s.observers s.state a := by
    simp [effects, Function.comp_def, List.filterMap_cons]
  refine ⟨?_, ?_, ?_⟩ <;> rw [hprocessed, transitions_concat]
  · show reduce s.state a = reduce _ a
    rw [h.state]
  · show s.observers.map (·.next a) = (transitions start (processed s.trace)).observers.map (·.next a)
    rw [h.observers]
  · show sent (effects (s.advance o a).trace) = sent (_ ++ transitionEffects _ _ a)
    rw [heffects, sent_append, sent_append, h.events, h.state, h.observers]

section
variable [DeepLinker L] [DecidableEq V]

theorem Folds.tick {start : Observed} {m m' : Moment V L} (hm : Folds start m.store)
    (h : Tick m m') : Folds start m'.store := by
  cases h with
  | aside due h => exact hm.aside h
  | pass s h due current => exact hm
  | hear s h due label project last reactions listens changed =>
    exact hm.keep (Store.trace_record _ _) rfl rfl rfl rfl
  | write s h due sync last listens changed =>
    have hupdate : Folds start (s.update h fun _ => .mount (sync.storeChanged s.state.link.1
        s.state.link.2).sync s.state.link) :=
      hm.keep (d := []) (by simp) rfl rfl rfl rfl
    exact (hupdate.aside (.note _ _)).wrote h _
  | take s a rest waits =>
    have hdequeued : Folds start (s.dequeued rest) := ⟨hm.state, hm.observers, hm.events⟩
    exact hdequeued.advance .queued a

theorem Folds.step {start : Observed} {m m' : Moment V L} (hm : Folds start m.store)
    (h : Step m m') : Folds start m'.store := by
  cases h with
  | tick h => exact hm.tick h
  | greet s label v => exact hm.keep (Store.trace_record _ _) rfl rfl rfl rfl
  | greetMount s ws => exact hm.wrote s.nextHandle ws
  | join s label l => exact hm.keep (Store.trace_join _ _ _) rfl rfl rfl rfl
  | introduce s mount label h free => exact hm.keep (d := []) (by simp) rfl rfl rfl rfl

theorem folds_run {start : Observed} {s : Store V L} (h : Folds start s)
    (ops : List (StoreOp V L)) : Folds start (s.run ops) :=
  Store.run_induction (P := fun m => Folds start m.store) (fun _ _ h hm => hm.step h)
    (fun _ a hs => hs.advance .dispatched a)
    (fun _ _ _ hs => hs.keep (d := []) (by simp) rfl rfl rfl rfl) h ops

end

/-! ## what is sent -/

theorem mounted?_dismiss {p : Subscriber V L → Bool} {label : String}
    (hp : ∀ x, x.isMount label = true → p x = false) (s : Store V L) :
    (s.dismiss p).mounted? label = s.mounted? label := by
  unfold Store.mounted?
  rw [Store.subscribers_dismiss, List.find?_filter]
  congr 2
  funext x
  cases hx : x.isMount label with
  | false => simp
  | true => simp [hp x hx]

theorem mounted?_unsubscribe (s : Store V L) (label name : String) :
    (s.unsubscribe label).mounted? name = s.mounted? name := by
  refine mounted?_dismiss (fun x hx => ?_) s
  simp only [Subscriber.isMount, Subscriber.isNamed, Subscriber.isCalled, Bool.and_eq_true,
    beq_iff_eq] at hx
  simp [Subscriber.isSubscription, Subscriber.isNamed, Subscriber.isCalled, hx.2.2]

theorem mounted?_unmount_self (s : Store V L) (label : String) :
    (s.unmount label).mounted? label = none := by
  unfold Store.mounted? Store.unmount
  rw [Store.subscribers_dismiss, List.find?_eq_none.mpr, Option.bind_none]
  intro x hx
  simpa using (List.mem_filter.mp hx).2

theorem mounted?_unmount_of_ne {label name : String} (hne : name ≠ label) (s : Store V L) :
    (s.unmount label).mounted? name = s.mounted? name := by
  refine mounted?_dismiss (fun x hx => ?_) s
  simp only [Subscriber.isMount, Subscriber.isNamed, Subscriber.isCalled, Bool.and_eq_true,
    decide_eq_true_eq] at hx
  simp [Subscriber.isMount, Subscriber.isNamed, Subscriber.isCalled, hx.2.1, hne]

/-- a subscription that heard something is still no mount -/
theorem find?_isMount_updateFirst {h : Nat} {f : Listener V L → Listener V L} {label : String}
    {xs : List (Subscriber V L)} {x : Subscriber V L}
    (hx : xs.find? (fun y => decide (y.handle = h)) = some x)
    (hbefore : x.listener.isMount = false) (hafter : (f x.listener).isMount = false) :
    (updateFirst h (Subscriber.relisten f) xs).find? (·.isMount label) =
      xs.find? (·.isMount label) := by
  induction xs with
  | nil => rfl
  | cons y ys ih =>
    unfold updateFirst
    by_cases hy : y.handle = h
    · rw [List.find?_cons_of_pos (by simpa using hy)] at hx
      cases hx
      have hold : x.isMount label = false := by
        simp [Subscriber.isMount, Subscriber.isNamed, Subscriber.isCalled, hbefore]
      have hnew : (x.relisten f).isMount label = false := by
        simp [Subscriber.isMount, Subscriber.isNamed, Subscriber.isCalled, Subscriber.relisten,
          hafter]
      rw [if_pos hy, List.find?_cons, List.find?_cons, hold, hnew]
    · rw [List.find?_cons_of_neg (by simpa using hy)] at hx
      rw [if_neg hy, List.find?_cons, List.find?_cons, ih hx]

theorem mounted?_update {s : Store V L} {h : Nat} {f : Listener V L → Listener V L}
    {l : Listener V L} (hl : s.listener? h = some l) (hbefore : l.isMount = false)
    (hafter : (f l).isMount = false) (label : String) :
    (s.update h f).mounted? label = s.mounted? label := by
  obtain ⟨x, hx, rfl⟩ := Option.map_eq_some_iff.mp hl
  unfold Store.mounted?
  rw [Store.subscribers_update, find?_isMount_updateFirst hx hbefore hafter]

theorem queued_note (s : Store V L) (entries : List LogEntry) :
    queued (s.note entries).trace = queued s.trace := by
  simp [queued, Function.comp_def]

theorem queued_dismiss (s : Store V L) (p : Subscriber V L → Bool) :
    queued (s.dismiss p).trace = queued s.trace := by
  simp [queued, Function.comp_def]

theorem queued_queue (s : Store V L) (as : List Action) :
    queued (s.queue as).trace = queued s.trace ++ as := by
  simp [queued, Function.comp_def]

theorem queued_advance (s : Store V L) (o : Origin) (a : Action) :
    queued (s.advance o a).trace = queued s.trace := by
  simp [queued, Function.comp_def, List.filterMap_cons]

theorem Store.Asides.processed_eq {s t : Store V L} (h : Store.Asides s t) :
    processed t.trace = processed s.trace := by
  refine h.preserve (P := fun x => processed x.trace = processed s.trace) ?_ rfl
  intro x y hxy hx
  rw [← hx]
  cases hxy <;> simp [processed, Function.comp_def]

/-- what deeds send, if the mounts of labels report `announced`; who is dropped reports nothing -/
def Deed.sent (announced : String → List Action) : List Deed → List Action
  | [] => []
  | queue a :: ds => a :: sent announced ds
  | unsubscribe _ :: ds => sent announced ds
  | linkChanged label :: ds => announced label ++ sent announced ds
  | unmount label :: ds => sent (fun name => if name = label then [] else announced name) ds

section
variable [DeepLinker L]

namespace Store

/-- what the mount of a label reports when it is told that its link has changed -/
def announced (s : Store V L) (label : String) : List Action :=
  ((s.mounted? label).map (·.announcement)).toList

theorem announced_eq {s t : Store V L} (h : ∀ label, t.mounted? label = s.mounted? label) :
    t.announced = s.announced := by
  funext label
  unfold announced
  rw [h]

theorem announced_unmount (s : Store V L) (label : String) :
    (s.unmount label).announced = fun name => if name = label then [] else s.announced name := by
  funext name
  unfold announced
  by_cases hname : name = label
  · rw [if_pos hname, hname, mounted?_unmount_self]
    rfl
  · rw [if_neg hname, mounted?_unmount_of_ne hname]

theorem queued_linkChanged (s : Store V L) (label : String) :
    queued (s.linkChanged label).trace = queued s.trace ++ s.announced label ∧
      (s.linkChanged label).announced = s.announced := by
  unfold linkChanged announced
  cases s.mounted? label with
  | none => exact ⟨(List.append_nil _).symm, rfl⟩
  | some sync =>
    refine ⟨?_, rfl⟩
    rw [queued_queue, queued_note]
    rfl

/-- what deeds send is queued, and nothing else -/
theorem queued_react (s : Store V L) (ds : List Deed) :
    queued (s.react ds).trace = queued s.trace ++ Deed.sent s.announced ds := by
  induction ds generalizing s with
  | nil => exact (List.append_nil _).symm
  | cons d ds ih =>
    refine (ih (s.act d)).trans ?_
    cases d with
    | queue a =>
      show queued (s.queue [a]).trace ++ _ = _
      rw [queued_queue, List.append_assoc]
      rfl
    | unsubscribe label =>
      have hannounced : (s.unsubscribe label).announced = s.announced :=
        announced_eq (mounted?_unsubscribe s label)
      show queued (s.unsubscribe label).trace ++ Deed.sent (s.unsubscribe label).announced ds = _
      rw [hannounced, unsubscribe, queued_dismiss]
      rfl
    | linkChanged label =>
      obtain ⟨hqueued, hannounced⟩ := queued_linkChanged s label
      show queued (s.linkChanged label).trace ++ Deed.sent (s.linkChanged label).announced ds = _
      rw [hannounced, hqueued, List.append_assoc]
      rfl
    | unmount label =>
      show queued (s.unmount label).trace ++ Deed.sent (s.unmount label).announced ds = _
      rw [announced_unmount, unmount, queued_dismiss]
      rfl

end Store

/-- what a caller sends itself, without leaving it to subscribers -/
def StoreOp.sent (s : Store V L) : StoreOp V L → List Action
  | .queue as => as
  | .linkChanged label => s.announced label
  | _ => []

variable [DecidableEq V]

namespace Store

/-- what the subscriber of a handle sends when it is told of the state -/
def sentBy (s : Store V L) (h : Nat) : List Action := Deed.sent s.announced (s.deedsBy h)

/-- what is sent while subscribers are told one after the other -/
def sentWhile (s : Store V L) : List Nat → List Action
  | [] => []
  | h :: due => s.sentBy h ++ (s.notify h).sentWhile due

theorem queued_told (s : Store V L) (h : Nat) :
    queued (s.told h).trace = queued s.trace :=
  filterMap_told (fun _ _ _ => rfl) (fun _ => rfl) (fun _ _ => rfl) s h

/-- being told something, a subscription leaves the mounts as they are; and mounts do no deeds -/
theorem sent_told (s : Store V L) (h : Nat) :
    Deed.sent (s.told h).announced (s.deedsBy h) = s.sentBy h := by
  unfold sentBy told deedsBy
  cases hx : s.subscribers.find? fun x => decide (x.handle = h) with
  | none => rfl
  | some x =>
    have hl : s.listener? h = some x.listener := by simp [listener?, hx]
    rw [hl]
    obtain ⟨handle, label, known, listener⟩ := x
    cases listener with
    | subscription project last reactions =>
      simp only
      split
      · rfl
      · have hannounced := announced_eq (mounted?_update (f := fun _ => .subscription project
          (project s.state) (reactions.map (Reaction.spend (project s.state)))) hl rfl rfl)
        show Deed.sent (s.update h fun _ => .subscription project (project s.state)
          (reactions.map (Reaction.spend (project s.state)))).announced _ = _
        rw [hannounced]
    | mount sync last => rfl

theorem queued_notify (s : Store V L) (h : Nat) :
    queued (s.notify h).trace = queued s.trace ++ s.sentBy h := by
  rw [notify_eq_react, queued_react, queued_told, sent_told]

theorem queued_foldl_notify (due : List Nat) (s : Store V L) :
    queued (due.foldl notify s).trace = queued s.trace ++ s.sentWhile due := by
  induction due generalizing s with
  | nil => exact (List.append_nil _).symm
  | cons h due ih =>
    refine (ih (s.notify h)).trans ?_
    rw [queued_notify, List.append_assoc]
    rfl

/-- all that is sent in a cycle is sent by those who are told -/
theorem queued_process (s : Store V L) (o : Origin) (a : Action) :
    queued (s.process o a).trace =
      queued s.trace ++ (s.advance o a).sentWhile s.handles := by
  rw [process_eq]
  refine (queued_foldl_notify s.handles _).trans ?_
  rw [queued_advance]

end Store

/-- what does not settle processes nothing, and sends what its caller sends -/
theorem unsettled_apply (s : Store V L) {op : StoreOp V L} (h : op.settles = false) :
    processed (s.apply op).trace = processed s.trace ∧
      queued (s.apply op).trace = queued s.trace ++ op.sent s := by
  cases op with
  | queue as =>
    exact ⟨Store.Asides.processed_eq (.single (.queue s as)), queued_queue s as⟩
  | unsubscribe label =>
    exact ⟨(Store.asides_unsubscribe s label).processed_eq,
      (queued_dismiss s _).trans (List.append_nil _).symm⟩
  | unmount label =>
    exact ⟨(Store.asides_unmount s label).processed_eq,
      (queued_dismiss s _).trans (List.append_nil _).symm⟩
  | edit label text => exact ⟨rfl, (List.append_nil _).symm⟩
  | linkChanged label =>
    exact ⟨(Store.asides_linkChanged s label).processed_eq, (Store.queued_linkChanged s label).1⟩
  | nothing => exact ⟨rfl, (List.append_nil _).symm⟩
  | dispatch a | drain | select label project reactions | mount label sync => cases h

/-- what settles leaves nothing that waits -/
theorem pending_apply (s : Store V L) {op : StoreOp V L} (h : op.settles = true) :
    (s.apply op).pending = [] := by
  cases op with
  | dispatch a => exact Store.pending_dispatch s a
  | drain => exact Store.pending_drain s
  | select label project reactions => exact Store.pending_select s label project reactions
  | mount label sync => exact Store.pending_mount s label sync
  | queue as | unsubscribe label | unmount label | edit label text | linkChanged label | nothing =>
    cases h

/-! ## whole runs -/

theorem order_run (s : Store V L) (hs : processedFrom .queued s.trace ++ s.pending = queued s.trace)
    (ops : List (StoreOp V L)) :
    processedFrom .dispatched (s.run ops).trace =
      processedFrom .dispatched s.trace ++ ops.flatMap StoreOp.dispatched ∧
    processedFrom .queued (s.run ops).trace ++ (s.run ops).pending = queued (s.run ops).trace := by
  induction ops generalizing s with
  | nil => exact ⟨by simp [Store.run], hs⟩
  | cons op ops ih =>
    obtain ⟨d, htrace, hlead, -, horder⟩ := serves_apply s op
    -- the invariant: what was taken from the queue, and then what waits, is all that was sent
    have hnext : processedFrom .queued (s.apply op).trace ++ (s.apply op).pending =
        queued (s.apply op).trace := by
      rw [htrace, processedFrom_append, List.append_assoc, horder, ← List.append_assoc, hs,
        queued_append]
    obtain ⟨hdispatched, hqueued⟩ := ih (s.apply op) hnext
    refine ⟨hdispatched.trans ?_, hqueued⟩
    rw [htrace, processedFrom_append, hlead, List.flatMap_cons, List.append_assoc]

/-- **A run of a store is one fold.**  Every action that was dispatched or sent is processed once,
or waits and will be; those that were sent come in the order in which they were sent; the state,
the observers and the events are those of one fold over all that was processed.  The next call `op`
processes its own action first, then what waited, then what is sent meanwhile, and leaves nothing
that waits if it settles at all.  Callers send what they say.  At every moment, also in the middle of
a cycle, reactions send what they say, and a subscriber that is told of a state sends what its
reactions send; a cycle sends nothing else. -/
theorem run_linear (state : State) (observers : List Observer) (ops : List (StoreOp V L)) :
    let s := (Store.new state observers : Store V L).run ops
    let r := transitions ⟨state, observers, []⟩ (processed s.trace)
    processedFrom .dispatched s.trace = ops.flatMap StoreOp.dispatched ∧
    processedFrom .queued s.trace ++ s.pending = queued s.trace ∧
    (processed s.trace ++ s.pending).Perm (ops.flatMap StoreOp.dispatched ++ queued s.trace) ∧
    s.state = r.state ∧ s.observers = r.observers ∧ sent (effects s.trace) = sent r.effects ∧
    (∀ op, ∃ d, (s.apply op).trace = s.trace ++ d ∧
      processed d ++ (s.apply op).pending = op.dispatched ++ s.pending ++ queued d ∧
      (op.settles = true → (s.apply op).pending = []) ∧
      (op.settles = false → processed d = [] ∧ queued d = op.sent s)) ∧
    ∀ u : Store V L,
      (∀ ds, queued (u.react ds).trace = queued u.trace ++ Deed.sent u.announced ds) ∧
      (∀ h, queued (u.notify h).trace = queued u.trace ++ u.sentBy h) ∧
      ∀ o a, queued (u.process o a).trace =
        queued u.trace ++ (u.advance o a).sentWhile u.handles := by
  intro s r
  obtain ⟨hdispatched, hqueued⟩ := order_run (Store.new state observers : Store V L) rfl ops
  have hfold := folds_run (Folds.new state observers : Folds _ (Store.new state observers)) ops
  refine ⟨hdispatched, hqueued, ?_, hfold.state, hfold.observers, hfold.events, ?_,
    fun u => ⟨u.queued_react, u.queued_notify, u.queued_process⟩⟩
  · have hperm := (processed_perm s.trace).append_right s.pending
    rw [List.append_assoc, hqueued] at hperm
    exact hperm.trans (List.Perm.of_eq (by rw [hdispatched]; rfl))
  · intro op
    obtain ⟨d, htrace, -, hfirst, horder⟩ := serves_apply s op
    refine ⟨d, htrace, ?_, pending_apply s, fun h => ?_⟩
    · rw [hfirst, List.append_assoc, horder, List.append_assoc]
    · obtain ⟨hprocessed, hsent⟩ := unsettled_apply s h
      rw [htrace, processed_append] at hprocessed
      rw [htrace, queued_append] at hsent
      exact ⟨List.append_right_eq_self.mp hprocessed, List.append_cancel_left hsent⟩

end

end TabShell

import Mathlib.Data.List.ReduceOption
import TabShell.Proofs.Observer.Reports
import TabShell.Proofs.Store.Heard
import TabShell.Proofs.Store.Order
import TabShell.Proofs.Store.Quiet
/-!
# Page views and what a subscription hears

Analytics compares the active plugin before and after every action.  A subscription to the active
plugin compares it with what it heard last.  Once the core has loaded, both see the same changes,
and a page view is a change to a plugin.

* `pages`          what a memory holds of the page views in a piece of a trace;
* `pages_action`   one action is one page view, if it changes the active plugin to another;
* `Viewed`         the page views of a piece of a trace are the changes of the active plugin, and
                   between two of the same page no plugin was active for a moment;
* `Views.step`     every step keeps that;
* `pages_heard`    page views and what is heard, in every run.
-/

namespace TabShell

/-- the page of a page view -/
def Event.page? (e : Event) : Option String :=
  match e.category with
  | .pageView => some e.payload
  | .generic => none

def Observer.isAnalytics : Observer → Bool
  | analytics _ _ => true
  | logging => false

section
variable {V L : Type}

/-- the pages of the page views that a memory receives -/
def pages (t : List (Happening V)) : List String :=
  (Sink.memory.received (effects t)).filterMap Event.page?

theorem pages_append (t u : List (Happening V)) : pages (t ++ u) = pages t ++ pages u := by
  unfold pages
  rw [effects_append, Sink.received_append, List.filterMap_append]

theorem pages_eq_nil {t : List (Happening V)} (h : sent (effects t) = []) : pages t = [] := by
  unfold pages
  rw [Sink.received_memory, h]
  rfl

/-! ## one action -/

namespace Observer

theorem sent_effects_logging (s : State) (a : Action) (s' : State) :
    sent (logging.effects s a s') = [] :=
  sent_map_note _

/-- only analytics sends -/
theorem sent_flatMap_effects (os : List Observer) (s : State) (a : Action) (s' : State) :
    sent (os.flatMap fun o => o.effects s a s') =
      (os.filter isAnalytics).flatMap fun o => sent (o.effects s a s') := by
  induction os with
  | nil => rfl
  | cons o os ih =>
    rw [List.flatMap_cons, sent_append, ih]
    cases o with
    | analytics key ready => rw [List.filter_cons_of_pos rfl, List.flatMap_cons]
    | logging =>
      rw [sent_effects_logging, List.filter_cons_of_neg (by simp [isAnalytics]), List.nil_append]

end Observer

theorem sent_transitionEffects (os : List Observer) (s : State) (a : Action) :
    sent (transitionEffects os s a) =
      (os.filter Observer.isAnalytics).flatMap fun o => sent (o.effects s a (reduce s a)) := by
  unfold transitionEffects
  rw [sent_append, Observer.sent_map_note, List.nil_append, Observer.sent_flatMap_effects]

theorem page?_schedule (t : Observer.Shown) : t.schedule.filterMap Event.page? = [] := by
  unfold Observer.Shown.schedule
  cases t.action <;> rfl

/-- the page that is visited when another plugin becomes active; the active plugin is never the
empty text -/
theorem page?_visit (t : Observer.Shown) :
    (t.visit State.activePlugin?).filterMap Event.page? =
      if t.after.activePlugin? = t.before.activePlugin? then [] else
        t.after.activePlugin?.toList := by
  unfold Observer.Shown.visit
  cases hafter : t.after.activePlugin? with
  | none => exact (ite_self []).symm
  | some page =>
    show (if page ≠ "" ∧ t.before.activePlugin? ≠ some page then _ else _ : List Event).filterMap _ = _
    have hpage : page ≠ "" := (State.activePlugin?_eq_some.mp hafter).2
    by_cases hbefore : t.before.activePlugin? = some page
    · rw [if_pos hbefore.symm, if_neg fun h => h.2 hbefore]
      rfl
    · rw [if_neg (Ne.symm hbefore), if_pos ⟨hpage, hbefore⟩]
      rfl

theorem activePlugin?_reduce_coreLoaded (s : State) :
    (reduce s .coreLoaded).activePlugin? = s.activePlugin? := rfl

/-- what analytics of the active plugin makes of one action once the core has loaded -/
theorem pages_action {os : List Observer}
    (only : os.filter Observer.isAnalytics = [.analytics State.activePlugin? true]) (s : State)
    (o : Origin) (a : Action) :
    pages (.processed o a :: (transitionEffects os s a).map (.effect : Effect → Happening V)) =
      if (reduce s a).activePlugin? = s.activePlugin? then [] else
        (reduce s a).activePlugin?.toList := by
  have heffects : effects (.processed o a ::
      (transitionEffects os s a).map (.effect : Effect → Happening V)) =
        transitionEffects os s a := by
    simp [effects, Function.comp_def, List.filterMap_cons]
  unfold pages
  rw [heffects, Sink.received_memory, sent_transitionEffects, only, List.flatMap_singleton]
  let t : Observer.Shown := ⟨s, a, reduce s a⟩
  show (sent (Observer.effects _ t.before t.action t.after)).filterMap Event.page? = _
  cases ht : t.loads with
  | true =>
    have ha : a = .coreLoaded := of_decide_eq_true ht
    rw [Observer.sent_effects_loads true ht, ha, if_pos (activePlugin?_reduce_coreLoaded s)]
    rfl
  | false =>
    rw [Observer.sent_effects_ready ht, Observer.Shown.reports, List.filterMap_append,
      page?_schedule, List.append_nil, page?_visit]

end

/-! ## a piece of a trace -/

/-- the state at the end of a piece of a trace -/
def stateAfter {V : Type} (state : State) (d : List (Happening V)) : State :=
  (processed d).foldl reduce state

/-- between two page views of the same page, one after the other, no plugin was active -/
def Apart {V : Type} (state : State) (d : List (Happening V)) : Prop :=
  ∀ us p vs, pages d = us ++ p :: p :: vs → ∃ x y, d = x ++ y ∧ pages x = us ++ [p] ∧
    pages y = p :: vs ∧ (stateAfter state x).activePlugin? = none

/-- page views in a piece of a trace that begins at a state are the changes of the active plugin,
the unset ones left out -/
structure Viewed {V : Type} (state : State) (d : List (Happening V)) : Prop where
  pages : pages d = (changes ((statesFrom state d).map State.activePlugin?)).tail.reduceOption
  apart : Apart state d

theorem concat_eq_append_pair {α : Type} {ps us vs : List α} {p q : α}
    (h : ps ++ [q] = us ++ p :: p :: vs) :
    ps = us ++ [p] ∧ q = p ∧ vs = [] ∨ ∃ ws, vs = ws ++ [q] ∧ ps = us ++ p :: p :: ws := by
  rcases List.eq_nil_or_concat vs with rfl | ⟨ws, r, rfl⟩
  · rw [List.append_cons us] at h
    obtain ⟨hps, hq⟩ := List.append_inj' h rfl
    exact .inl ⟨hps, List.singleton_inj.mp hq, rfl⟩
  · rw [List.concat_eq_append, ← List.cons_append, ← List.cons_append, ← List.append_assoc] at h
    obtain ⟨hps, hq⟩ := List.append_inj' h rfl
    exact .inr ⟨ws, by rw [List.concat_eq_append, hq], hps⟩

theorem getLast?_activePlugin {V : Type} (state : State) (d : List (Happening V)) :
    ((statesFrom state d).map State.activePlugin?).getLast? =
      some (stateAfter state d).activePlugin? := by
  rw [List.getLast?_map, getLast?_statesFrom]
  rfl

namespace Viewed

variable {V : Type} {state : State} {d e : List (Happening V)}

theorem nil (state : State) : Viewed state ([] : List (Happening V)) :=
  ⟨rfl, fun _ _ _ h => by cases (List.append_eq_nil_iff.mp h.symm).2⟩

/-- after the last page view its plugin stays active, or none is -/
theorem last (h : Viewed state d) {p : String} (hp : (TabShell.pages d).getLast? = some p) :
    (stateAfter state d).activePlugin? = none ∨ (stateAfter state d).activePlugin? = some p := by
  cases hnow : (stateAfter state d).activePlugin? with
  | none => exact .inl rfl
  | some q =>
    right
    have hlast := getLast?_activePlugin state d
    rw [← getLast?_changes, hnow] at hlast
    obtain ⟨vs, hvs⟩ := List.getLast?_eq_some_iff.mp hlast
    rw [h.pages, hvs] at hp
    cases vs with
    | nil => cases hp
    | cons v vs =>
      rw [List.cons_append, List.tail_cons, List.reduceOption_append, List.reduceOption_singleton,
        Option.toList_some, List.getLast?_concat] at hp
      exact hp

/-- what comes later leaves the page views that were there apart -/
theorem apart_append (h : Viewed state d) {us vs : List String} {p : String}
    (hpages : TabShell.pages d = us ++ p :: p :: vs) (e : List (Happening V)) :
    ∃ x y, d ++ e = x ++ y ∧ TabShell.pages x = us ++ [p] ∧
      TabShell.pages y = p :: (vs ++ TabShell.pages e) ∧
      (stateAfter state x).activePlugin? = none := by
  obtain ⟨x, y, rfl, hx, hy, hnone⟩ := h.apart us p vs hpages
  exact ⟨x, y ++ e, List.append_assoc _ _ _, hx, by rw [pages_append, hy, List.cons_append], hnone⟩

theorem apart_silent (h : Viewed state d) (hpages : TabShell.pages e = []) :
    Apart state (d ++ e) := by
  intro us p vs hd
  rw [pages_append, hpages, List.append_nil] at hd
  obtain ⟨x, y, hxy, hx, hy, hnone⟩ := h.apart_append hd e
  rw [hpages, List.append_nil] at hy
  exact ⟨x, y, hxy, hx, hy, hnone⟩

/-- a page view of a plugin that was not active -/
theorem apart_visit (h : Viewed state d) {q : String} (hpages : TabShell.pages e = [q])
    (hbefore : (stateAfter state d).activePlugin? ≠ some q) : Apart state (d ++ e) := by
  intro us p vs hd
  rw [pages_append, hpages] at hd
  -- the second of the two page views is this one, or both were there before
  rcases concat_eq_append_pair hd with ⟨hold, rfl, rfl⟩ | ⟨ws, rfl, hold⟩
  · have hlast : (TabShell.pages d).getLast? = some q := by rw [hold, List.getLast?_concat]
    exact ⟨d, e, rfl, hold, hpages, (h.last hlast).resolve_right hbefore⟩
  · obtain ⟨x, y, hxy, hx, hy, hnone⟩ := h.apart_append hold e
    rw [hpages] at hy
    exact ⟨x, y, hxy, hx, hy, hnone⟩

theorem quiet (h : Viewed state d) (hprocessed : processed e = [])
    (hpages : TabShell.pages e = []) : Viewed state (d ++ e) := by
  refine ⟨?_, h.apart_silent hpages⟩
  rw [pages_append, hpages, List.append_nil, statesFrom_append state d e hprocessed, h.pages]

/-- one more action, and its page view if the active plugin changes to another -/
theorem action (h : Viewed state d) {a : Action} (hprocessed : processed e = [a])
    (hpages : TabShell.pages e =
      if (reduce (stateAfter state d) a).activePlugin? = (stateAfter state d).activePlugin? then []
      else (reduce (stateAfter state d) a).activePlugin?.toList) : Viewed state (d ++ e) := by
  have hlast := getLast?_activePlugin state d
  have hstates : (statesFrom state (d ++ e)).map State.activePlugin? =
      (statesFrom state d).map State.activePlugin? ++
        [(reduce (stateAfter state d) a).activePlugin?] := by
    rw [statesFrom_concat state d e a hprocessed, List.map_append]
    rfl
  by_cases hsame : (reduce (stateAfter state d) a).activePlugin? =
      (stateAfter state d).activePlugin?
  · rw [if_pos hsame] at hpages
    refine ⟨?_, h.apart_silent hpages⟩
    rw [pages_append, hpages, List.append_nil, hstates, hsame, changes_concat_of_eq hlast, h.pages]
  · rw [if_neg hsame] at hpages
    refine ⟨?_, ?_⟩
    · have hne : changes ((statesFrom state d).map State.activePlugin?) ≠ [] := by
        intro hnil
        rw [← getLast?_changes, hnil] at hlast
        cases hlast
      rw [hstates, changes_concat_of_ne hlast hsame, List.tail_append_of_ne_nil hne,
        List.reduceOption_append, List.reduceOption_singleton, pages_append, hpages, h.pages]
    · cases hafter : (reduce (stateAfter state d) a).activePlugin? with
      | none =>
        rw [hafter] at hpages
        exact h.apart_silent hpages
      | some q =>
        rw [hafter] at hpages hsame
        exact h.apart_visit hpages (Ne.symm hsame)

end Viewed

/-! ## runs -/

/-- the account of the page views since a store in which the core has loaded -/
structure Views {V L : Type} (base : Store V L) (s : Store V L) : Prop where
  only : s.observers.filter Observer.isAnalytics = [.analytics State.activePlugin? true]
  since : ∃ d, s.trace = base.trace ++ d ∧ s.state = stateAfter base.state d ∧
    Viewed base.state d

namespace Views

variable {V L : Type} {base s t : Store V L}

theorem refl (only : s.observers.filter Observer.isAnalytics =
    [.analytics State.activePlugin? true]) : Views s s :=
  ⟨only, [], (List.append_nil _).symm, rfl, .nil s.state⟩

theorem quiet (hs : Views base s) {e : List (Happening V)} (h : Quiet s t e) : Views base t := by
  obtain ⟨only, d, htrace, hstate, hviewed⟩ := hs
  refine ⟨h.observers ▸ only, d ++ e, ?_, ?_, hviewed.quiet h.processed (pages_eq_nil h.sent)⟩
  · rw [h.trace, htrace, List.append_assoc]
  · unfold stateAfter
    rw [h.state, hstate, processed_append, h.processed, List.append_nil]
    rfl

theorem filter_next {os : List Observer} (a : Action)
    (only : os.filter Observer.isAnalytics = [.analytics State.activePlugin? true]) :
    (os.map (·.next a)).filter Observer.isAnalytics = [.analytics State.activePlugin? true] := by
  have hkind : Observer.isAnalytics ∘ (·.next a) = Observer.isAnalytics := by
    funext o
    cases o <;> rfl
  rw [List.filter_map, hkind, only]
  rfl

theorem advance (hs : Views base s) (o : Origin) (a : Action) : Views base (s.advance o a) := by
  obtain ⟨only, d, htrace, hstate, hviewed⟩ := hs
  have hprocessed := processed_action (V := V) o a (transitionEffects s.observers s.state a)
  refine ⟨filter_next a only, d ++ _, ?_, ?_, hviewed.action hprocessed ?_⟩
  · rw [Store.trace_advance, htrace, List.append_assoc]
  · unfold stateAfter
    rw [processed_append, hprocessed, List.foldl_append]
    show reduce s.state a = reduce (stateAfter base.state d) a
    rw [hstate]
  · rw [pages_action only, hstate]

variable [DeepLinker L] [DecidableEq V]

theorem step {m m' : Moment V L} (hm : Views base m.store) (h : Step m m') :
    Views base m'.store := by
  rcases h.quiet_or_takes with ⟨e, he⟩ | ⟨a, rest, htakes⟩
  · exact hm.quiet he
  · have hdequeued : Views base (m.store.dequeued rest) := hm.quiet (.still rfl rfl rfl)
    rw [htakes]
    exact hdequeued.advance .queued a

theorem steps {m m' : Moment V L} (hm : Views base m.store) (h : Store.Steps m m') :
    Views base m'.store :=
  h.preserve (P := fun m => Views base m.store) (fun _ _ h hm => hm.step h) hm

theorem run (hs : Views base s) (ops : List (StoreOp V L)) : Views base (s.run ops) :=
  Store.run_induction (P := fun m => Views base m.store) (fun _ _ h hm => hm.step h)
    (fun _ a hs => hs.advance .dispatched a)
    (fun s label text hs => hs.quiet (.edit s label text)) hs ops

end Views

/-! ## readiness -/

theorem transitions_observers (r : Observed) (as : List Action) :
    (transitions r as).observers = r.observers.map fun o => as.foldl Observer.next o := by
  induction as generalizing r with
  | nil => exact (List.map_id _).symm
  | cons a as ih =>
    show (transitions (transition r a) as).observers = _
    rw [ih]
    show (r.observers.map (·.next a)).map _ = _
    rw [List.map_map]
    rfl

theorem foldl_next_analytics (key : State → Option String) (ready : Bool) (as : List Action) :
    as.foldl Observer.next (.analytics key ready) =
      .analytics key (ready || decide (.coreLoaded ∈ as)) := by
  induction as generalizing ready with
  | nil => simp
  | cons a as ih =>
    show as.foldl Observer.next (.analytics key (ready || decide (a = .coreLoaded))) = _
    rw [ih, Bool.or_assoc]
    congr 2
    rw [← Bool.decide_or]
    apply decide_eq_decide.mpr
    rw [List.mem_cons]
    exact or_congr_left eq_comm

theorem foldl_next_logging (as : List Action) : as.foldl Observer.next .logging = .logging := by
  induction as with
  | nil => rfl
  | cons a as ih => exact ih

/-- analytics of a store in which the core has been loaded is ready -/
theorem filter_observers_loaded {V L : Type} {state : State} {os : List Observer}
    (only : os.filter Observer.isAnalytics = [.pageViews]) {s : Store V L}
    (hs : Folds ⟨state, os, []⟩ s) (loaded : .coreLoaded ∈ processed s.trace) :
    s.observers.filter Observer.isAnalytics = [.analytics State.activePlugin? true] := by
  have hkind : Observer.isAnalytics ∘ (fun o => (processed s.trace).foldl Observer.next o) =
      Observer.isAnalytics := by
    funext o
    show ((processed s.trace).foldl Observer.next o).isAnalytics = o.isAnalytics
    cases o with
    | analytics key ready => rw [foldl_next_analytics]; rfl
    | logging => rw [foldl_next_logging]
  rw [hs.observers, transitions_observers, List.filter_map, hkind]
  show (os.filter Observer.isAnalytics).map _ = _
  rw [only]
  show [(processed s.trace).foldl Observer.next (.analytics State.activePlugin? false)] = _
  rw [foldl_next_analytics, decide_eq_true loaded]
  rfl

/-! ## what a subscription hears -/

variable {V L : Type} [DecidableEq V]

/-- who still listens between two calls has heard all there was to hear -/
theorem Follows.heard_eq {base t : Store V L} {k : Nat} {project : State → V}
    (h : Follows base k project ⟨t, []⟩) (stays : k ∉ left t.trace) :
    ∃ d, t.trace = base.trace ++ d ∧ heard k d = changes ((statesFrom base.state d).map project) := by
  obtain ⟨-, -, d, htrace, -, hstands⟩ := h
  refine ⟨d, htrace, ?_⟩
  cases hstands with
  | told reactions listens all => exact all
  | due waits last reactions listens vs behind latest all => cases waits
  | gone p q split first silent all =>
    refine absurd ?_ stays
    rw [htrace, left_append]
    exact List.mem_append_right _ (mem_left_of_split split)

theorem filter_map_value {value : Option String → V} (distinct : Function.Injective value)
    (vs : List (Option String)) :
    (vs.map value).filter (· ≠ value none) = vs.reduceOption.map fun p => value (some p) := by
  induction vs with
  | nil => rfl
  | cons v vs ih =>
    cases v with
    | none =>
      rw [List.map_cons, List.filter_cons_of_neg (by simp), ih, List.reduceOption_cons_of_none]
    | some p =>
      have hne : value (some p) ≠ value none := fun h => nomatch distinct h
      rw [List.map_cons, List.filter_cons_of_pos (by simpa using hne), ih,
        List.reduceOption_cons_of_some, List.map_cons]

variable [DeepLinker L]

/-- from the first delivery of a new subscription on, the rest of the call is steps -/
theorem steps_select_greeted (s : Store V L) (label : String) (project : State → V)
    (reactions : List (Reaction V)) :
    Store.Steps ⟨s.record [.delivered s.nextHandle label (project s.state)], []⟩
      ⟨s.select label project reactions, []⟩ := by
  have hreact := ((Store.asides_deliver s s.nextHandle label (project s.state) reactions).ticks
    []).steps
  have hjoin := hreact.tail (.join _ label (.subscription project (project s.state)
    (reactions.map (Reaction.spend (project s.state)))))
  exact hjoin.trans (Store.steps_select_joined _ label s.nextHandle)

theorem follows_run {s : Store V L} (hs : Roster s) (label : String) (project : State → V)
    (reactions : List (Reaction V)) (ops : List (StoreOp V L)) :
    Follows s s.nextHandle project ⟨(s.select label project reactions).run ops, []⟩ := by
  have hselect : Follows s s.nextHandle project ⟨s.select label project reactions, []⟩ :=
    (Store.steps_select_joined _ label s.nextHandle).preserve (fun _ _ h hm => hm.step h)
      (Follows.joins hs label project reactions)
  exact Store.run_induction (fun _ _ h hm => hm.step h) (fun _ a hm => hm.opens a)
    (fun _ name text hm => hm.edit name text) hselect ops

/-- **Page views are the changes that a subscription hears.**  Let page views be the only analytics
of a store, and let the active plugin be subscribed to once the core has loaded, as values of
whatever kind the store delivers.  As long as the subscription is kept, the page views that a memory
receives after the first delivery are the values heard since, without the unset ones and in the same
order.  So between two calls the active plugin is the page viewed last, or none is active, and
between two views of one page, one after the other, no plugin was active for a moment. -/
theorem pages_heard (state : State) (observers : List Observer)
    (only : observers.filter Observer.isAnalytics = [.pageViews]) (before : List (StoreOp V L))
    (label : String) (value : Option String → V) (distinct : Function.Injective value)
    (reactions : List (Reaction V)) (ops : List (StoreOp V L)) :
    let s := (Store.new state observers : Store V L).run before
    let k := s.nextHandle
    let t := (s.select label (fun x => value x.activePlugin?) reactions).run ops
    .coreLoaded ∈ processed s.trace → k ∉ left t.trace →
    ∃ d, t.trace = s.trace ++ .delivered k label (value s.state.activePlugin?) :: d ∧
      t.state = stateAfter s.state d ∧
      (pages d).map (fun p => value (some p)) = (heard k d).filter (· ≠ value none) ∧
      (∀ p, (pages d).getLast? = some p →
        t.state.activePlugin? = none ∨ t.state.activePlugin? = some p) ∧
      ∀ us p vs, pages d = us ++ p :: p :: vs → ∃ x y, d = x ++ y ∧ pages x = us ++ [p] ∧
        pages y = p :: vs ∧ (stateAfter s.state x).activePlugin? = none := by
  intro s k t loaded stays
  have hroster : Roster s := roster_run (Roster.new state observers) before
  have hfolds : Folds ⟨state, observers, []⟩ s := folds_run (Folds.new state observers) before
  have hready := filter_observers_loaded only hfolds loaded
  have hfirst : Views (s.record [.delivered k label (value s.state.activePlugin?)])
      (s.record [.delivered k label (value s.state.activePlugin?)]) := .refl hready
  obtain ⟨-, d, htrace, hstate, hviewed⟩ :=
    (hfirst.steps (steps_select_greeted s label (fun x => value x.activePlugin?) reactions)).run ops
  obtain ⟨d', htrace', hheard⟩ := (follows_run hroster label _ reactions ops).heard_eq stays
  have hsplit : d' = .delivered k label (value s.state.activePlugin?) :: d := by
    have htwice := htrace'.symm.trans htrace
    rw [Store.trace_record, List.append_assoc] at htwice
    exact List.append_cancel_left htwice
  have hstates : statesFrom s.state d' = statesFrom s.state d := by rw [hsplit]; rfl
  have hself : heard k d' = value s.state.activePlugin? :: heard k d := by
    rw [hsplit]
    simp [heard]
  refine ⟨d, by rw [← hsplit]; exact htrace', hstate, ?_, ?_, hviewed.apart⟩
  · have hmap : (statesFrom s.state d).map (fun x => value x.activePlugin?) =
        ((statesFrom s.state d).map State.activePlugin?).map value := (List.map_map ..).symm
    have hchanges : heard k d' =
        (changes ((statesFrom s.state d).map State.activePlugin?)).map value := by
      unfold changes
      rw [List.map_destutter_ne _ distinct, ← hmap, ← hstates]
      exact hheard
    have htail : heard k d =
        (changes ((statesFrom s.state d).map State.activePlugin?)).tail.map value := by
      rw [List.map_tail, ← hchanges, hself, List.tail_cons]
    rw [htail, filter_map_value distinct, hviewed.pages]
    rfl
  · intro p hp
    have hlast := hviewed.last hp
    rw [← hstate] at hlast
    exact hlast

/-- a plugin that is unset and listed again while it is heard, in a store whose logging looks on
and whose core is loaded twice -/
theorem pages_heard_again :
    let empty : State := { State.initial with core := { State.initial.core with chosen := some "" } }
    let again : Reaction (Option String) :=
      .script (some (some "a")) 1 [.pluginChanged "", .coreLoaded, .listingLoaded ["a", "b"]] [] [] []
    let s := (Store.new empty [.logging, .pageViews] : Store (Option String) Remembered).run
      [.dispatch .coreLoaded]
    let k := s.nextHandle
    let t := (s.select "plugin" (fun x => id x.activePlugin?) [again]).run
      [.dispatch (.pluginChanged "a"), .dispatch (.linkedPluginChanged "b")]
    [Observer.logging, .pageViews].filter Observer.isAnalytics = [.pageViews] ∧
    .coreLoaded ∈ processed s.trace ∧ k ∉ left t.trace ∧
    ∃ d, t.trace = s.trace ++ .delivered k "plugin" none :: d ∧
      (heard k d).filter (· ≠ none) = [some "a", some "a", some "b"] ∧
      (t.state.activePlugin? = none ∨ t.state.activePlugin? = some "b") ∧
      ∃ x y, d = x ++ y ∧ pages x = ["a"] ∧ pages y = ["a", "b"] ∧
        (stateAfter s.state x).activePlugin? = none := by
  intro empty again s k t
  have only : [Observer.logging, .pageViews].filter Observer.isAnalytics = [.pageViews] := rfl
  have loaded : .coreLoaded ∈ processed s.trace := by decide +kernel
  have stays : k ∉ left t.trace := by decide +kernel
  obtain ⟨d, htrace, -, hheard, hlast, hapart⟩ := pages_heard empty [.logging, .pageViews] only
    [.dispatch .coreLoaded] "plugin" id Function.injective_id [again] _ loaded stays
  have hunset : s.state.activePlugin? = none := by decide +kernel
  change t.trace = s.trace ++ .delivered k "plugin" s.state.activePlugin? :: d at htrace
  rw [hunset] at htrace
  have hpages : pages d = ["a", "a", "b"] := by
    have hd : d = t.trace.drop (s.trace.length + 1) := by
      rw [htrace, List.append_cons, List.drop_left' (by simp)]
    rw [hd]
    decide +kernel
  refine ⟨only, loaded, stays, d, htrace, ?_, hlast "b" (by rw [hpages]; rfl),
    hapart [] "a" ["b"] hpages⟩
  have hvalues := hheard.symm
  rw [hpages] at hvalues
  exact hvalues

end TabShell

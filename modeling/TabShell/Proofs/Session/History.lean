import TabShell.Proofs.Location.Single
import TabShell.Proofs.Session.Settled
import TabShell.Proofs.Store.Changes
import TabShell.Proofs.Store.Agreement
/-!
# The history of a session

While nobody edits the address, its history is that of the selection.  Only what was selected at a
route counts, and selecting the same again adds nothing.

* `selections`       what was selected in the states at a route;
* `written`          the history that comes of selections;
* `Synced`           a synchronizer that has written these selections, the first in place of the
                     empty fragment;
* `Accounted`        a session whose mount is in step with its states, which every command but an
                     edit keeps;
* `history_selections`   the history after any commands without an edit.
-/

namespace TabShell.Session

/-- what was selected in the states at a route -/
def selections (ss : List State) : List String := (ss.filter State.routeReady).map State.selection

theorem selections_append (ss ts : List State) :
    selections (ss ++ ts) = selections ss ++ selections ts := by
  unfold selections
  rw [List.filter_append, List.map_append]

theorem selections_concat_ready {x : State} (hx : x.routeReady = true) (ss : List State) :
    selections (ss ++ [x]) = selections ss ++ [x.selection] := by
  rw [selections_append]
  unfold selections
  rw [List.filter_cons_of_pos hx]
  rfl

theorem selections_concat_not_ready {x : State} (hx : x.routeReady = false) (ss : List State) :
    selections (ss ++ [x]) = selections ss := by
  rw [selections_append]
  unfold selections
  rw [List.filter_cons_of_neg (by simp [hx]), List.filter_nil, List.map_nil, List.append_nil]

/-- the history of a location that these selections were written to: equal neighbours once, and
while there is none the empty fragment -/
def written (key default : String) (ws : List String) : List String :=
  if ws = [] then [""] else (changes ws).map (Location.single key default)

theorem written_concat_of_eq {ws : List String} {w : String} (hw : ws.getLast? = some w)
    (key default : String) : written key default (ws ++ [w]) = written key default ws := by
  have hne : ws ≠ [] := List.ne_nil_of_mem (List.mem_of_getLast? hw)
  unfold written
  rw [if_neg (by simp), if_neg hne, changes_concat_of_eq hw]

theorem length_written_singleton (key default : String) (x : State) :
    (written key default (selections [x])).length = 1 := by
  show (written key default (selections ([] ++ [x]))).length = 1
  cases hready : x.routeReady with
  | false =>
    rw [selections_concat_not_ready hready]
    rfl
  | true =>
    rw [selections_concat_ready hready]
    rfl

/-! ## the synchronizer -/

/-- a synchronizer that was told of these selections at a route, one after the other -/
structure Synced (key default : String) (ws : List String) (sync : Synchronizer Location) :
    Prop where
  writes : sync.key = key ∧ sync.default = default
  before : ws = [] → sync.phase ≠ .synced ∧ sync.linker = Location.empty
  since : ws ≠ [] → sync.phase = .synced ∧
    sync.linker.history = (changes ws).map (Location.single key default)

namespace Synced

variable {key default : String} {ws : List String} {sync : Synchronizer Location}

theorem current (h : Synced key default ws sync) {w : String} (hw : ws.getLast? = some w) :
    sync.linker.current = Location.single key default w := by
  have hne : ws ≠ [] := List.ne_nil_of_mem (List.mem_of_getLast? hw)
  have hlast := sync.linker.getLast?_history
  rw [(h.since hne).2, List.getLast?_map, getLast?_changes, hw] at hlast
  exact (Option.some.inj hlast).symm

theorem linker_write (h : Synced key default ws sync) (plugin : Option String) :
    (sync.storeChanged plugin true).sync.linker =
      sync.linker.navigate (Location.single key default (plugin.getD ""))
        (decide (sync.phase ≠ .synced)) := by
  obtain ⟨⟨rfl, rfl⟩, hbefore, -⟩ := id h
  have hkeys : ∀ p ∈ sync.linker.params, p.key = sync.key := by
    cases hw : ws.getLast? with
    | none =>
      rw [(hbefore (List.getLast?_eq_none_iff.mp hw)).2, Location.params_empty]
      exact nofun
    | some w => exact Location.forall_key_of_current (h.current hw)
  rw [sync.linker_storeChanged_ready]
  exact Location.set_of_forall_key (w := ⟨sync.key, plugin.getD "", _, sync.default⟩) hkeys

/-- a selection is written -/
theorem write (h : Synced key default ws sync) (plugin : Option String) :
    Synced key default (ws ++ [plugin.getD ""]) (sync.storeChanged plugin true).sync := by
  refine ⟨?_, fun hnil => absurd hnil (by simp), fun _ => ⟨rfl, ?_⟩⟩
  · rw [key_storeChanged, default_storeChanged]
    exact h.writes
  · rw [h.linker_write]
    cases hw : ws.getLast? with
    | none =>
      -- the first write takes the place of the empty fragment
      have hnil := List.getLast?_eq_none_iff.mp hw
      obtain ⟨hphase, hlinker⟩ := h.before hnil
      rw [decide_eq_true hphase, Location.history_navigate_replace, hlinker, hnil]
      rfl
    | some w =>
      have hne : ws ≠ [] := List.ne_nil_of_mem (List.mem_of_getLast? hw)
      obtain ⟨hphase, hhistory⟩ := h.since hne
      have hcurrent := h.current hw
      have hpush : decide (sync.phase ≠ .synced) = false := by rw [hphase]; rfl
      rw [hpush]
      by_cases hv : plugin.getD "" = w
      · rw [hv, ← hcurrent, Location.navigate_current, hhistory, changes_concat_of_eq hw]
      · have hfragment : Location.single key default (plugin.getD "") ≠ sync.linker.current := by
          rw [hcurrent]
          exact fun heq => hv (Location.single_inj heq)
        rw [Location.history_navigate_push hfragment, hhistory, changes_concat_of_ne hw hv,
          List.map_append]
        rfl

/-- nothing is written, for the selection is the last one again -/
theorem again (h : Synced key default ws sync) {w : String} (hw : ws.getLast? = some w) :
    Synced key default (ws ++ [w]) sync := by
  have hne : ws ≠ [] := List.ne_nil_of_mem (List.mem_of_getLast? hw)
  refine ⟨h.writes, fun hnil => absurd hnil (by simp), fun _ => ?_⟩
  rw [changes_concat_of_eq hw]
  exact h.since hne

end Synced

/-! ## the session -/

theorem processed_news (s : Session) (sync : Synchronizer Location) (o : Origin) (a : Action) :
    processed (s.news sync o a) = [a] := by
  have htold : processed (told sync s.state (reduce s.state a)) = [] := by
    unfold told
    split
    · rfl
    · simp [processed, Function.comp_def]
  unfold news
  rw [processed_append, processed_action, htold]
  rfl

theorem selection_eq_link (x : State) : x.selection = x.link.1.getD "" := rfl

/-- what was selected at a route since the beginning, and the synchronizer that was told of it -/
structure Accounted (first : State) (key default : String) (s : Session)
    (sync : Synchronizer Location) : Prop where
  settled : Settled s sync
  state : s.state = (processed s.trace).foldl reduce first
  synced : Synced key default (selections (statesFrom first s.trace)) sync
  latest : s.state.routeReady = true →
    (selections (statesFrom first s.trace)).getLast? = some s.state.selection

namespace Accounted

variable {first : State} {key default : String} {s : Session} {sync : Synchronizer Location}

theorem acted (h : Accounted first key default s sync) (o : Origin) (a : Action) :
    Accounted first key default (s.acted sync o a) (sync.hear s.state (reduce s.state a)) := by
  obtain ⟨hsettled, hstate, hsynced, hlatest⟩ := h
  have hprocessed := processed_news s sync o a
  have hstates : statesFrom first (s.acted sync o a).trace =
      statesFrom first s.trace ++ [reduce s.state a] := by
    rw [hstate]
    exact statesFrom_concat first s.trace _ a hprocessed
  have hstate' : (s.acted sync o a).state =
      (processed (s.acted sync o a).trace).foldl reduce first := by
    show reduce s.state a = (processed (s.trace ++ s.news sync o a)).foldl reduce first
    rw [processed_append, hprocessed, List.foldl_append, ← hstate]
    rfl
  cases hready : (reduce s.state a).routeReady with
  | false =>
    -- without a route the synchronizer does nothing, told or not
    have hhear : sync.hear s.state (reduce s.state a) = sync := by
      unfold Synchronizer.hear
      split
      · rfl
      · show (sync.storeChanged _ (reduce s.state a).routeReady).sync = sync
        rw [hready]
        rfl
    refine ⟨settled_acted s sync o a, hstate', ?_, ?_⟩
    · rw [hstates, selections_concat_not_ready hready, hhear]
      exact hsynced
    · intro hroute
      cases hready.symm.trans hroute
  | true =>
    refine ⟨settled_acted s sync o a, hstate', ?_, ?_⟩
    · rw [hstates, selections_concat_ready hready]
      -- it is not told when plugin and route are as before, and then it has written this already
      by_cases hsame : (reduce s.state a).link = s.state.link
      · have hhear : sync.hear s.state (reduce s.state a) = sync := if_pos hsame
        have hroute : s.state.routeReady = true :=
          (congrArg Prod.snd hsame).symm.trans hready
        rw [hhear, selection_eq_link, hsame]
        exact hsynced.again (hlatest hroute)
      · have hhear : sync.hear s.state (reduce s.state a) =
            (sync.storeChanged (reduce s.state a).activePlugin? true).sync := by
          rw [← hready]
          exact if_neg hsame
        rw [hhear]
        exact hsynced.write (reduce s.state a).activePlugin?
    · intro _
      rw [hstates, selections_concat_ready hready, List.getLast?_concat]
      rfl

theorem after (h : Accounted first key default s sync) {c : Command} (hc : ∀ f, c ≠ .hash f) :
    processed (s.after c).trace = processed s.trace ++ (action? c).toList ∧
      ∃ sync', Accounted first key default (s.after c) sync' := by
  cases ha : action? c with
  | none =>
    rw [after_of_action?_eq_none s hc ha]
    exact ⟨(List.append_nil _).symm, sync, h⟩
  | some a =>
    rw [after_of_action? s ha, dispatch_settled h.settled]
    refine ⟨?_, _, h.acted .dispatched a⟩
    show processed (s.trace ++ s.news sync .dispatched a) = _
    rw [processed_append, processed_news]
    rfl

theorem afterAll (h : Accounted first key default s sync) {cs : List Command}
    (hcs : ∀ f, .hash f ∉ cs) :
    processed (s.afterAll cs).trace = processed s.trace ++ cs.filterMap action? ∧
      ∃ sync', Accounted first key default (s.afterAll cs) sync' := by
  induction cs generalizing s sync with
  | nil => exact ⟨(List.append_nil _).symm, sync, h⟩
  | cons c cs ih =>
    obtain ⟨hprocessed, sync', h'⟩ := h.after (c := c) fun f hf => hcs f (hf ▸ List.mem_cons_self ..)
    obtain ⟨hrest, hlast⟩ := ih h' fun f hf => hcs f (List.mem_cons_of_mem c hf)
    refine ⟨?_, hlast⟩
    rw [List.filterMap_cons]
    show processed ((s.after c).afterAll cs).trace = _
    rw [hrest, hprocessed, List.append_assoc]
    cases action? c <;> rfl

theorem selections_after (h : Accounted first key default s sync) {c : Command}
    (hc : ∀ f, c ≠ .hash f) :
    selections (statesFrom first (s.after c).trace) =
      selections (statesFrom first s.trace) ++
        selections ((action? c).toList.map (reduce s.state)) := by
  have hprocessed := (h.after hc).1
  rw [← selections_append]
  unfold statesFrom
  rw [hprocessed, List.scanl_append, h.state]
  cases action? c <;> rfl

/-- the history is that of the selections, equal neighbours once; without any it is empty -/
theorem history_eq (h : Accounted first key default s sync) :
    s.location.history = written key default (selections (statesFrom first s.trace)) := by
  rw [location_settled h.settled]
  unfold written
  split
  · next hnil =>
    rw [(h.synced.before hnil).2]
    rfl
  · next hne => exact (h.synced.since hne).2

end Accounted

theorem processed_start (c : Config) : processed (start c).trace = [] := by
  rw [(settled_start c).2.2]
  simp [processed, Function.comp_def]

theorem routeReady_start (c : Config) : (start c).state.routeReady = false := by
  rw [(settled_start c).2.1]
  exact routeReady_withReloadPeriod c.reloadPeriod

theorem accounted_start (c : Config) :
    Accounted (start c).state c.pluginKey c.defaultValue (start c)
      (.new Location.empty c.pluginKey c.defaultValue) := by
  have hprocessed := processed_start c
  have hroute := routeReady_start c
  have hnone : selections (statesFrom (start c).state (start c).trace) = [] := by
    unfold statesFrom selections
    rw [hprocessed, List.scanl_nil, List.filter_cons_of_neg (by simp [hroute])]
    rfl
  refine ⟨(settled_start c).1, by rw [hprocessed]; rfl, ?_, fun hready => by cases hroute.symm.trans hready⟩
  rw [hnone]
  exact ⟨⟨rfl, rfl⟩, fun _ => ⟨nofun, rfl⟩, fun h => absurd rfl h⟩

/-- the selections of a session, the state before its first action left out -/
theorem selections_start (c : Config) (t : List (Happening Empty)) :
    selections (statesFrom (start c).state t).tail =
      selections (statesFrom (start c).state t) := by
  have hstates : statesFrom (start c).state t =
      (start c).state :: (statesFrom (start c).state t).tail := by
    unfold statesFrom
    cases processed t with
    | nil => rfl
    | cons a as =>
      rw [List.scanl_cons]
      rfl
  rw [hstates]
  unfold selections
  rw [List.filter_cons_of_neg (by simp [routeReady_start c])]
  rfl

/-- **The history is that of the selection.**  Under every configuration and after every sequence of
commands without an edit of the address, the history holds what was selected in the states at a
route, one state an action, with equal neighbours once; while there was none it is one empty
fragment.  So the first selection that is written adds no entry, no route that is left adds one,
and neither does one that is entered with the selection that was written last. -/
theorem history_selections (c : Config) (cs : List Command) (hcs : ∀ f, .hash f ∉ cs) :
    let t := (start c).afterAll cs
    let w := selections (statesFrom (start c).state t.trace).tail
    processed t.trace = cs.filterMap action? ∧
    t.location.history =
      (if w = [] then [""] else (changes w).map (Location.single c.pluginKey c.defaultValue)) ∧
    (w = [] → ∀ next, (∀ f, next ≠ .hash f) → (t.after next).location.history.length = 1) ∧
    (t.after .unroute).location.history = t.location.history ∧
    (w.getLast? = some t.state.selection →
      ∀ path, (t.after (.route path)).location.history = t.location.history) := by
  intro t w
  obtain ⟨hprocessed, sync, ht⟩ := (accounted_start c).afterAll hcs
  have hw : w = selections (statesFrom (start c).state t.trace) := selections_start c t.trace
  have hhistory : t.location.history = written c.pluginKey c.defaultValue w := by
    rw [hw]
    exact ht.history_eq
  -- the history one command later, by the selections that it adds
  have hnext : ∀ next, (∀ f, next ≠ Command.hash f) →
      (t.after next).location.history = written c.pluginKey c.defaultValue
        (w ++ selections ((action? next).toList.map (reduce t.state))) := by
    intro next hno
    obtain ⟨-, sync', ht'⟩ := ht.after hno
    rw [ht'.history_eq, ht.selections_after hno, hw]
  refine ⟨?_, hhistory, ?_, ?_, ?_⟩
  · rw [hprocessed, processed_start]
    rfl
  · intro hnil next hno
    rw [hnext next hno, hnil, List.nil_append]
    cases action? next with
    | none => rfl
    | some a => exact length_written_singleton _ _ (reduce t.state a)
  · rw [hnext .unroute nofun, hhistory]
    show written _ _ (w ++ selections ([] ++ [reduce t.state .routeCleared])) = _
    rw [selections_concat_not_ready rfl]
    exact congrArg _ (List.append_nil w)
  · intro hlast path
    rw [hnext (.route path) nofun, hhistory]
    show written _ _ (w ++ selections ([] ++ [reduce t.state (.navigated path)])) = _
    rw [selections_concat_ready rfl]
    exact written_concat_of_eq hlast c.pluginKey c.defaultValue

/-- selections without a route, the default among them, and routes that come and go -/
theorem history_selections_flapping :
    let c : Config := { Config.default with pluginKey := "p q", defaultValue := "b" }
    let cs : List Command :=
      [.select (some "x"), .route "/", .unroute, .select (some "b"), .select (some "x"), .route "/1",
       .select (some "b"), .ready, .route "/2", .select none, .unroute, .select (some "a&="),
       .route "/3"]
    let unrouted := (start c).afterAll [.select (some "x")]
    let t := (start c).afterAll cs
    (unrouted.after (.route "/")).location.history.length = 1 ∧
    (∀ f, .hash f ∉ cs) ∧
    selections (statesFrom (start c).state t.trace).tail =
      ["x", "x", "b", "b", "b", "", "a&="] ∧
    t.location.history = ["p+q=x", "", "p+q=", "p+q=a%26%3D"] ∧
    (∀ path, (t.after (.route path)).location.history = t.location.history) := by
  intro c cs unrouted t
  obtain ⟨-, -, hfirst, -, -⟩ := history_selections c [.select (some "x")] (by simp)
  have hcs : ∀ f, .hash f ∉ cs := by simp [cs]
  obtain ⟨-, hhistory, -, -, hroute⟩ := history_selections c cs hcs
  have hw : selections (statesFrom (start c).state t.trace).tail =
      ["x", "x", "b", "b", "b", "", "a&="] := by decide +kernel
  refine ⟨hfirst (by decide +kernel) (.route "/") nofun, hcs, hw, ?_, hroute (by decide +kernel)⟩
  rw [hw] at hhistory
  exact hhistory.trans (by decide +kernel)

end TabShell.Session

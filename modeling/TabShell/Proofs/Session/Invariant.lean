import TabShell.Proofs.Command.Canonical
import TabShell.Proofs.Script.Untext
import TabShell.Proofs.Session.Entries
import TabShell.Proofs.State.Outcome
/-!
# What holds between two lines

Whatever the lines of a session are, after each of them its state is in order, its one mount has
heard of it, and nothing waits.  How far the listing, the core and the synchronizer have got is
known from the commands alone.

* `Sane`             a state in order, as commands have left it;
* `Sound`            the same of a session;
* `Kept`             the same with the synchronizer of the mount, which every command keeps;
* `kept_runFrom`     a script, which keeps it with the commands that are heeded;
* `sound_lines`      sessions and scripts after any lines.
-/

namespace TabShell

/-- whether a command brings a list of plugins -/
def Command.lists : Command → Bool
  | plugins _ => true
  | _ => false

/-- whether a command leads to a route -/
def Command.routes : Command → Bool
  | route _ => true
  | _ => false

namespace Session

/-- a state in order, as these commands have left it -/
structure Sane (cs : List Command) (x : State) : Prop where
  period : 0 < x.core.reloadPeriod
  chosen : x.core.chosen ≠ some ""
  plugins : ∀ id ∈ x.core.plugins, id ≠ "" ∧ ',' ∉ id.toList ∧ Command.Trimmed id
  listing : x.core.listing = if cs.any Command.lists then .loaded else .notLoaded
  loaded : x.core.loaded = decide (.ready ∈ cs)

/-- a session in order, as these commands have left it -/
structure Sound (cs : List Command) (s : Session) : Prop where
  state : Sane cs s.state
  /-- what is stored as the choice is what is read as the active plugin -/
  active : s.state.activePlugin? = s.state.core.chosen
  phase : s.phase = if cs.any Command.routes then .synced else .waitingForRoute
  alone : s.subscriberCount = 1
  idle : s.pending = []

/-! ## the state -/

/-- what a command does to the state, if it does anything: its action, or the report of an edit -/
def Does (c : Command) (a : Action) : Prop :=
  action? c = some a ∨ ∃ f plugin, c = .hash f ∧ a = .linkedPluginChanged plugin

section
variable {cs : List Command} {c : Command} {a : Action} {x : State}

theorem any_concat (p : Command → Bool) (cs : List Command) (c : Command) :
    (cs ++ [c]).any p = (cs.any p || p c) := by
  rw [List.any_append, List.any_cons, List.any_nil, Bool.or_false]

theorem Does.plugins? (h : Does c a) (hc : c.Canonical) {ids : List String}
    (hids : a.plugins? = some ids) :
    ∀ id ∈ ids, id ≠ "" ∧ ',' ∉ id.toList ∧ Command.Trimmed id := by
  rcases h with h | ⟨f, plugin, rfl, rfl⟩
  · cases c with
    | plugins ids' =>
      cases h
      cases hids
      exact hc
    | hash f | state | location | quit => cases h
    | _ =>
      cases h
      cases hids
  · cases hids

theorem Does.listing? (h : Does c a) :
    a.listing? = if c.lists then some .loaded else none := by
  rcases h with h | ⟨f, plugin, rfl, rfl⟩
  · cases c with
    | hash f | state | location | quit => cases h
    | _ =>
      cases h
      rfl
  · rfl

theorem Does.loads (h : Does c a) : decide (a = .coreLoaded) = decide (c = .ready) := by
  rcases h with h | ⟨f, plugin, rfl, rfl⟩
  · cases c with
    | hash f | state | location | quit => cases h
    | _ =>
      cases h
      rfl
  · rfl

theorem Does.routeReady (h : Does c a) (hready : (reduce x a).routeReady = true) :
    c.routes = true ∨ x.routeReady = true := by
  rcases h with h | ⟨f, plugin, rfl, rfl⟩
  · cases c with
    | hash f | state | location | quit => cases h
    | route path => exact .inl rfl
    | unroute =>
      cases h
      cases hready
    | _ =>
      cases h
      exact .inr hready
  · exact .inr hready

theorem Does.routes (h : Does c a) (hc : c.routes = true) : (reduce x a).routeReady = true := by
  cases c with
  | route path =>
    rcases h with h | ⟨f, plugin, hf, -⟩
    · cases h
      rfl
    · cases hf
  | _ => cases hc

theorem Sane.does (h : Sane cs x) (hc : c.Canonical) (ha : Does c a) :
    Sane (cs ++ [c]) (reduce x a) := by
  refine ⟨Core.reduce_reloadPeriod_pos h.period a, ?_, ?_, ?_, ?_⟩
  · rw [ne_eq, chosen_reduce_eq_blank]
    rintro (⟨-, ids, rfl⟩ | ⟨hblank, -⟩)
    · exact (ha.plugins? hc rfl "" (List.mem_cons_self ..)).1 rfl
    · exact h.chosen hblank
  · rw [plugins_reduce]
    cases hids : a.plugins? with
    | none => exact h.plugins
    | some ids => exact ha.plugins? hc hids
  · rw [listing_reduce, ha.listing?, h.listing, any_concat]
    cases c.lists with
    | true => rw [Bool.or_true]; rfl
    | false => rw [Bool.or_false]; rfl
  · rw [loaded_reduce, h.loaded, ha.loads]
    simp [eq_comm]

/-- a command that does nothing -/
theorem Sane.idle (h : Sane cs x) (hlists : c.lists = false) (hready : c ≠ .ready) :
    Sane (cs ++ [c]) x := by
  refine ⟨h.period, h.chosen, h.plugins, ?_, ?_⟩
  · rw [h.listing, any_concat, hlists, Bool.or_false]
  · rw [h.loaded]
    simp [hready.symm]

end

theorem sane_start (c : Config) : Sane [] (start c).state := by
  rw [(settled_start c).2.1]
  have hperiod := State.withReloadPeriod_pos c.reloadPeriod
  unfold State.withReloadPeriod at hperiod ⊢
  split
  · exact ⟨by decide, nofun, nofun, rfl, rfl⟩
  · next hne =>
    rw [if_neg hne] at hperiod
    exact ⟨hperiod, nofun, nofun, rfl, rfl⟩

/-! ## the session -/

/-- a session that is settled, its state in order, and its synchronizer as far as the commands say -/
structure Kept (cs : List Command) (s : Session) (sync : Synchronizer Location) : Prop where
  settled : Settled s sync
  state : Sane cs s.state
  phase : sync.phase = if cs.any Command.routes then .synced else .waitingForRoute
  route : s.state.routeReady = true → cs.any Command.routes = true

namespace Kept

variable {cs : List Command} {s : Session} {sync : Synchronizer Location} {c : Command}

theorem start (c : Config) :
    Kept [] (start c) (.new Location.empty c.pluginKey c.defaultValue) := by
  refine ⟨(settled_start c).1, sane_start c, rfl, fun hready => ?_⟩
  cases (routeReady_start c).symm.trans hready

theorem sound (h : Kept cs s sync) : Sound cs s := by
  have hmounted : s.mounted? address = some sync := by
    unfold Store.mounted?
    rw [h.settled.subscribers]
    rfl
  refine ⟨h.state, State.activePlugin?_eq_chosen h.state.chosen, ?_, ?_, h.settled.pending⟩
  · unfold Session.phase
    rw [hmounted]
    exact h.phase
  · rw [Store.subscriberCount_eq, h.settled.subscribers]
    rfl

/-- an action of a command, in a session that is settled -/
theorem acted (h : Kept cs s sync) (hc : c.Canonical) (o : Origin) {a : Action} (ha : Does c a) :
    Kept (cs ++ [c]) (s.acted sync o a) (sync.hear s.state (reduce s.state a)) := by
  have hsynced : s.state.routeReady = true → sync.phase = .synced := fun hready => by
    rw [h.phase, h.route hready]
    rfl
  have hroute : (reduce s.state a).routeReady = true → (cs ++ [c]).any Command.routes = true := by
    intro hready
    rw [any_concat, Bool.or_eq_true]
    exact (ha.routeReady hready).symm.imp h.route id
  refine ⟨settled_acted .., h.state.does hc ha, ?_, hroute⟩
  cases hready : (reduce s.state a).routeReady with
  | true =>
    rw [phase_hear sync s.state _ hsynced hready, hroute hready]
    rfl
  | false =>
    have hroutes : c.routes = false := by
      cases hroutes : c.routes with
      | false => rfl
      | true => exact absurd (ha.routes hroutes) (by rw [hready]; exact Bool.false_ne_true)
    have hhear : (sync.hear s.state (reduce s.state a)).phase = sync.phase := by
      unfold Synchronizer.hear
      split
      · rfl
      · show (sync.storeChanged _ (reduce s.state a).routeReady).sync.phase = _
        rw [hready]
        rfl
    rw [hhear, any_concat, hroutes, Bool.or_false]
    exact h.phase

theorem after (h : Kept cs s sync) (hc : c.Canonical) :
    ∃ sync', Kept (cs ++ [c]) (s.after c) sync' := by
  by_cases hhash : ∃ f, c = .hash f
  · obtain ⟨f, rfl⟩ := hhash
    have hedited : Kept cs (s.edited sync f) (sync.edit f) :=
      ⟨⟨rfl, h.settled.pending⟩, h.state, h.phase, h.route⟩
    rw [hash_settled h.settled f]
    exact ⟨_, hedited.acted hc .queued (.inr ⟨f, _, rfl, rfl⟩)⟩
  · have hno : ∀ f, c ≠ .hash f := fun f hf => hhash ⟨f, hf⟩
    cases ha : action? c with
    | some a =>
      rw [after_of_action? s ha, dispatch_settled h.settled]
      exact ⟨_, h.acted hc .dispatched (.inl ha)⟩
    | none =>
      have hidle : c.lists = false ∧ c.routes = false ∧ c ≠ .ready := by
        cases c with
        | state | location | quit => exact ⟨rfl, rfl, nofun⟩
        | hash f => exact absurd rfl (hno f)
        | _ => cases ha
      obtain ⟨hlists, hroutes, hready⟩ := hidle
      have hany : (cs ++ [c]).any Command.routes = cs.any Command.routes := by
        rw [any_concat, hroutes, Bool.or_false]
      rw [after_of_action?_eq_none s hno ha]
      exact ⟨sync, h.settled, h.state.idle hlists hready, by rw [hany, h.phase],
        by rw [hany]; exact h.route⟩

theorem afterAll (h : Kept cs s sync) {ds : List Command} (hds : ∀ c ∈ ds, c.Canonical) :
    ∃ sync', Kept (cs ++ ds) (s.afterAll ds) sync' := by
  induction ds generalizing cs s sync with
  | nil => exact ⟨sync, by rwa [List.append_nil]⟩
  | cons c ds ih =>
    obtain ⟨sync', h'⟩ := h.after (hds c (List.mem_cons_self ..))
    obtain ⟨sync'', h''⟩ := ih h' fun d hd => hds d (List.mem_cons_of_mem c hd)
    rw [List.append_assoc] at h''
    exact ⟨sync'', h''⟩

end Kept

end Session

namespace Script

open Text Session

theorem canonical_of_mem_commands {lines : List (List Char)} {c : Command}
    (hc : c ∈ commands lines) : c.Canonical := by
  obtain ⟨line, -, hline⟩ := List.mem_filterMap.mp hc
  unfold command? at hline
  split at hline
  · next hparse => exact Command.canonical_of_parseChars (hparse.trans (congrArg _ hline))
  · cases hline

theorem canonical_of_reading {line : List UInt8} {c : Command}
    (h : reading line = some (.ok (some c))) : c.Canonical := by
  obtain ⟨text, -, hline⟩ := Option.map_eq_some_iff.mp h
  exact Command.canonical_of_parseChars hline

theorem kept_runFrom {cs : List Command} {r : ScriptRun}
    (h : ∃ sync, Kept cs r.session sync) (n : Nat) (lines : List (List UInt8)) :
    ∃ sync, Kept (cs ++ heeded lines) (runFrom r n lines).session sync := by
  refine runFrom_induction (P := fun cs r => ∃ sync, Kept cs r.session sync)
    (fun _ _ h => h) ?_ ?_ cs h n lines
  · rintro cs r n e ⟨sync, h⟩
    exact ⟨sync, h.settled.note _, h.state, h.phase, h.route⟩
  · rintro cs r line c hline ⟨sync, h⟩
    exact h.after (canonical_of_reading hline)

end Script

/-- **What holds between two lines.**  Under every configuration, after any lines, those that hold no
command or cannot be read included, the period is not zero, no empty name is chosen, the names of
the plugins are such as can stand between commas, the list of plugins and the core have loaded if a
command has loaded them and not otherwise, the synchronizer has begun to write if a command has led
to a route and has written whatever it had to, it is alone, and nothing waits.  This holds of the
commands on any lines of text one after the other, and of a script that has come any number of lines
far. -/
theorem Session.sound_lines (c : Config) :
    (∀ lines : List (List Char),
      Sound (Script.commands lines) ((start c).afterAll (Script.commands lines))) ∧
    ∀ lines : List (List UInt8),
      Sound (Script.heeded lines) (Script.runFrom ⟨start c, "", "", false⟩ 1 lines).session := by
  refine ⟨fun lines => ?_, fun lines => ?_⟩
  · obtain ⟨sync, h⟩ := (Kept.start c).afterAll fun d hd => Script.canonical_of_mem_commands hd
    exact h.sound
  · obtain ⟨sync, h⟩ :=
      Script.kept_runFrom (r := ⟨start c, "", "", false⟩) ⟨_, Kept.start c⟩ 1 lines
    exact h.sound

end TabShell

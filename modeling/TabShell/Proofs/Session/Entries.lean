import TabShell.Proofs.Location.Order
import TabShell.Proofs.Session.Link
/-!
# What an edit adds to the history of a session

An edit adds the fragment that was typed.  It is reported, and when it names another plugin than the
active one, a synchronizer at a route writes that plugin back.  What it writes is its own form of
the fragment, which is a second entry unless it is what was typed.

* `linker_hear_linked`    what a report does to the linker of a synchronizer at a route;
* `synced_afterAll`       at a route, a session has begun to write;
* `location_after_hash`   an edit, and what is written back (`TabShell.Proofs.Location.Order`);
* `history_after_hash`    the entries that an edit adds, and when there is a second one.
-/

namespace TabShell

section
variable (sync : Synchronizer Location) (x y : State)

theorem link_reduce_linked (plugin : String) :
    (reduce x (.linkedPluginChanged plugin)).link = x.link ↔ plugin = x.selection := by
  constructor
  · intro h
    rw [← selection_reduce_linked x plugin]
    exact congrArg (fun link => link.1.getD "") h
  · intro h
    show ((reduce x (.linkedPluginChanged plugin)).activePlugin?, x.routeReady) = x.link
    rw [activePlugin?_reduce_linked, h, choiceOf_selection]
    rfl

/-- who has begun to write at a route has done so after every change -/
theorem phase_hear (h : x.routeReady = true → sync.phase = .synced) (hready : y.routeReady = true) :
    (sync.hear x y).phase = .synced := by
  unfold Synchronizer.hear
  split
  · next hsame => exact h ((congrArg Prod.snd hsame).symm.trans hready)
  · show (sync.storeChanged y.activePlugin? y.routeReady).sync.phase = .synced
    rw [hready]
    rfl

/-- at a route, a report of another plugin than the active one is written back as a new entry -/
theorem linker_hear_linked (h : x.routeReady = true → sync.phase = .synced) (plugin : String) :
    (sync.hear x (reduce x (.linkedPluginChanged plugin))).linker =
      if x.routeReady = true ∧ plugin ≠ x.selection then
        sync.linker.set ⟨sync.key, plugin, false, sync.default⟩
      else sync.linker := by
  by_cases hsame : plugin = x.selection
  · rw [if_neg fun hnew => hnew.2 hsame]
    have hhear : sync.hear x (reduce x (.linkedPluginChanged plugin)) = sync :=
      if_pos ((link_reduce_linked x plugin).mpr hsame)
    rw [hhear]
  · have hhear : sync.hear x (reduce x (.linkedPluginChanged plugin)) =
        (sync.storeChanged (reduce x (.linkedPluginChanged plugin)).activePlugin?
          x.routeReady).sync :=
      if_neg fun hlink => hsame ((link_reduce_linked x plugin).mp hlink)
    rw [hhear]
    cases hready : x.routeReady with
    | false =>
      rw [if_neg fun hnew => Bool.false_ne_true hnew.1]
      rfl
    | true =>
      have hplugin : (reduce x (.linkedPluginChanged plugin)).activePlugin?.getD "" = plugin :=
        selection_reduce_linked x plugin
      rw [if_pos ⟨rfl, hsame⟩, sync.linker_storeChanged_ready, hplugin, h hready]
      rfl

end

namespace Session

variable {c : Config} {s : Session} {sync : Synchronizer Location}

/-- at a route, a session has begun to write -/
theorem synced_afterAll (c : Config) (cs : List Command) :
    ∃ sync, InStep c ((start c).afterAll cs) sync ∧
      (((start c).afterAll cs).state.routeReady = true → sync.phase = .synced) := by
  refine afterAll_induction
    (P := fun s sync => InStep c s sync ∧ (s.state.routeReady = true → sync.phase = .synced))
    (fun s sync h => h.1.settled) (fun s sync o a h => ?_) (fun s sync f h => ?_)
    ⟨InStep.start c, fun hready => ?_⟩ cs
  · exact ⟨h.1.acted o a, phase_hear sync s.state _ h.2⟩
  · exact ⟨h.1.edited f, phase_hear (sync.edit f) s.state _ h.2⟩
  · cases (routeReady_start c).symm.trans hready

/-- an edit, its report, and what is written back -/
theorem location_after_hash (h : InStep c s sync)
    (hphase : s.state.routeReady = true → sync.phase = .synced) (fragment : String) :
    let typed := s.location.edit fragment
    let named := (Location.ofFragment fragment).get c.pluginKey
    (s.after (.hash fragment)).location =
      if s.state.routeReady = true ∧ named ≠ s.state.selection then
        typed.set ⟨c.pluginKey, named, false, c.defaultValue⟩
      else typed := by
  intro typed named
  have htyped : (sync.edit fragment).linker = typed := by
    show (sync.linker.edit fragment : Location) = s.location.edit fragment
    rw [h.location]
  have hnamed : (sync.edit fragment).plugin = named := by
    have hkey : (sync.edit fragment).key = c.pluginKey := h.key
    rw [Synchronizer.plugin_eq_get, htyped, hkey]
    exact Location.get_eq_of_params (Location.params_edit ..) _
  rw [hash_settled h.settled fragment, location_settled (settled_acted ..)]
  show ((sync.edit fragment).hear s.state
    (reduce s.state (.linkedPluginChanged (sync.edit fragment).plugin))).linker = _
  rw [linker_hear_linked (sync.edit fragment) s.state hphase, hnamed, htyped, ← h.key, ← h.default]
  rfl

/-- **An edit adds the fragment that was typed, and its own form if that is another.**  Under every
configuration and after any commands, the history after an edit is the one before it, then what was
typed, unless it is there already, and then what the synchronizer writes back, if there is a route,
the plugin that was typed is not the active one, and what is written is not what was typed.  So
there is one new entry at most, but for an edit that adds both.  What is written is what was typed
if and only if that is tidy (where the default is the empty text or the key was typed). -/
theorem history_after_hash (c : Config) (cs : List Command) (fragment : String) :
    let s := (start c).afterAll cs
    let t := s.after (.hash fragment)
    let typed := stripHash fragment
    let named := (Location.ofFragment fragment).get c.pluginKey
    let rewritten := Location.rewritten c.pluginKey c.defaultValue fragment
    let first := if typed = s.location.current then [] else [typed]
    let second := if s.state.routeReady = true ∧ named ≠ s.state.selection ∧ rewritten ≠ typed then
      [rewritten] else []
    t.location.history = s.location.history ++ first ++ second ∧
    (t.location.historyLength ≤ s.location.historyLength + 1 ↔ first = [] ∨ second = []) ∧
    (c.defaultValue = "" ∨ (Location.ofFragment fragment).values c.pluginKey ≠ [] →
      (rewritten = typed ↔ Location.Tidy c.pluginKey c.defaultValue typed)) := by
  intro s t typed named rewritten first second
  obtain ⟨sync, hs, hphase⟩ := synced_afterAll c cs
  have hedit : (s.location.edit fragment).history = s.location.history ++ first :=
    Location.history_navigate s.location typed
  have hhistory : t.location.history = s.location.history ++ first ++ second := by
    rw [show t.location = _ from location_after_hash hs hphase fragment]
    by_cases hnew : s.state.routeReady = true ∧ named ≠ s.state.selection
    · have hsecond : second = if rewritten = typed then [] else [rewritten] := by
        by_cases hsame : rewritten = typed
        · rw [if_pos hsame]
          exact if_neg fun h => h.2.2 hsame
        · rw [if_neg hsame]
          exact if_pos ⟨hnew.1, hnew.2, hsame⟩
      rw [if_pos hnew, Location.history_set_edit, hedit, hsecond]
    · have hsecond : second = [] := if_neg fun h => hnew ⟨h.1, h.2.1⟩
      rw [if_neg hnew, hedit, hsecond, List.append_nil]
  refine ⟨hhistory, ?_, Location.rewritten_eq_iff⟩
  have hfirst : first.length ≤ 1 := by
    show (if typed = s.location.current then [] else [typed]).length ≤ 1
    split <;> simp
  have hsecond : second.length ≤ 1 := by
    show (if s.state.routeReady = true ∧ named ≠ s.state.selection ∧ rewritten ≠ typed then
      [rewritten] else []).length ≤ 1
    split <;> simp
  rw [← Location.length_history, ← Location.length_history, hhistory, List.length_append,
    List.length_append, ← List.length_eq_zero_iff, ← List.length_eq_zero_iff]
  omega

/-- a tidy fragment with other keys, typed where another plugin is the default -/
theorem history_after_hash_tidy :
    let c : Config := { Config.default with defaultValue := "b" }
    let s := (start c).afterAll [.route "/", .select (some "x")]
    let fragment := "#a=1&plugin=y+z&r="
    (Location.ofFragment fragment).values c.pluginKey ≠ [] ∧
    (s.after (.hash fragment)).location.history = ["plugin=", "plugin=x", "a=1&plugin=y+z&r="] := by
  intro c s fragment
  obtain ⟨hhistory, -, htidy⟩ :=
    history_after_hash c [.route "/", .select (some "x")] fragment
  have hvalues : (Location.ofFragment fragment).values c.pluginKey ≠ [] := by decide +kernel
  have hordered : Location.Ordered [⟨"a", "1"⟩, ⟨"plugin", "y z"⟩, ⟨"r", ""⟩] := by
    unfold Location.Ordered
    decide +kernel
  have hsame : Location.rewritten c.pluginKey c.defaultValue fragment = stripHash fragment :=
    (htidy (.inr hvalues)).mpr ⟨_, by decide +kernel, .inr ⟨hordered, "y z", by decide, by decide⟩⟩
  have hsecond : ¬ (s.state.routeReady = true ∧
      (Location.ofFragment fragment).get c.pluginKey ≠ s.state.selection ∧
      Location.rewritten c.pluginKey c.defaultValue fragment ≠ stripHash fragment) :=
    fun h => h.2.2 hsame
  refine ⟨hvalues, hhistory.trans ?_⟩
  rw [if_neg hsecond]
  decide +kernel

/-- a space that is typed in another spelling is written again -/
theorem history_after_hash_respelt :
    let s := (start Config.default).afterAll [.route "/"]
    let t := s.after (.hash "#plugin=a%20b")
    t.location.history = ["", "plugin=a%20b", "plugin=a+b"] ∧
    ¬ t.location.historyLength ≤ s.location.historyLength + 1 := by
  decide +kernel

end Session

end TabShell

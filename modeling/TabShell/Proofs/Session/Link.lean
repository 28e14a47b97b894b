import TabShell.Proofs.Location.History
import TabShell.Proofs.Session.History
import TabShell.Proofs.State.Choice
import TabShell.Proofs.Store.PageViews
/-!
# The link of a session

At a route, between two commands, the fragment names the active plugin, so that a link to the page
restores it elsewhere.  There is one selection that a fragment does not name: the configured
default, which is written by taking the key away and is read back as no plugin at all.

* `Synchronizer.Names`   at a route a link names the selection, but for a default;
* `InStep`               a session whose link does so, which every command keeps;
* `selection_restored`   a fragment carried from one session to another;
* `echo_noop`            a fragment that is reported again where it is.
-/

namespace TabShell

open Fragment

namespace Location

theorem params_ofFragment (l : Location) : (ofFragment l.fragment).params = l.params := by
  unfold params ofFragment
  rw [stripHash_fragment]

theorem params_edit_fragment (l m : Location) : (m.edit l.fragment).params = l.params := by
  rw [params_edit, params_ofFragment]

theorem get_eq_of_params {l m : Location} (h : l.params = m.params) (key : String) :
    l.get key = m.get key := by
  unfold get
  rw [h]

end Location

theorem Synchronizer.plugin_eq_get (sync : Synchronizer Location) :
    sync.plugin = sync.linker.get sync.key := rfl

/-- at a route a link names the selection, or names nothing and the selection is the default -/
def Synchronizer.Names (sync : Synchronizer Location) (link : Option String × Bool) : Prop :=
  link.2 = true →
    sync.plugin = link.1.getD "" ∨ sync.plugin = "" ∧ link.1.getD "" = sync.default

/-- what is written at a route reads back, unless it is the default -/
theorem names_storeChanged (sync : Synchronizer Location) (link : Option String × Bool) :
    (sync.storeChanged link.1 link.2).sync.Names link := by
  intro hready
  rw [hready, default_storeChanged, plugin_storeChanged]
  split
  · next hdefault => exact .inr ⟨rfl, hdefault⟩
  · exact .inl rfl

section
variable (sync : Synchronizer Location) (x y : State)

theorem key_hear : (sync.hear x y).key = sync.key := by
  unfold Synchronizer.hear
  split
  · rfl
  · exact key_storeChanged sync y.link.1 y.link.2

theorem default_hear : (sync.hear x y).default = sync.default := by
  unfold Synchronizer.hear
  split
  · rfl
  · exact default_storeChanged sync y.link.1 y.link.2

/-- who is not told had named the selection before -/
theorem names_hear (hsame : y.link = x.link → sync.Names y.link) :
    (sync.hear x y).Names y.link := by
  unfold Synchronizer.hear
  split
  · next h => exact hsame h
  · exact names_storeChanged sync y.link

theorem names_announcement : sync.Names (reduce x sync.announcement).link := by
  intro _
  unfold Synchronizer.announcement
  generalize sync.plugin = plugin
  exact .inl (selection_reduce_linked x plugin).symm

theorem values_hear {key : String} (hkey : key ≠ sync.key) :
    (sync.hear x y).linker.values key = sync.linker.values key := by
  unfold Synchronizer.hear
  split
  · rfl
  · cases hready : y.link.2 with
    | false => rfl
    | true =>
      rw [sync.linker_storeChanged_ready]
      exact (sync.linker.values_write ⟨sync.key, y.link.1.getD "", _, sync.default⟩ key).trans
        (if_neg hkey)

end

/-! ## the reducer and reports -/

theorem activePlugin?_reduce_linked (x : State) (plugin : String) :
    (reduce x (.linkedPluginChanged plugin)).activePlugin? = choiceOf plugin := by
  show (choiceOf plugin).filter (· ≠ "") = choiceOf plugin
  unfold choiceOf
  split
  · rfl
  · next h => simp [Option.filter, h]

theorem choiceOf_selection (x : State) : choiceOf x.selection = x.activePlugin? := by
  cases h : x.activePlugin? with
  | none =>
    unfold State.selection
    rw [h]
    rfl
  | some plugin =>
    have hne : plugin ≠ "" := (State.activePlugin?_eq_some.mp h).2
    unfold State.selection choiceOf
    rw [h]
    exact if_neg hne

/-- a report of the selection changes nothing, if none is chosen but by a name -/
theorem reduce_linked_selection {x : State} (hx : x.core.chosen ≠ some "") :
    reduce x (.linkedPluginChanged x.selection) = x := by
  have hchosen : x.activePlugin? = x.core.chosen := State.activePlugin?_eq_chosen hx
  show (⟨{ x.core with chosen := choiceOf x.selection }, x.route⟩ : State) = x
  rw [choiceOf_selection, hchosen]

namespace Session

/-! ## sessions in step -/

/-- a session between two commands whose link names the selection, but for a default -/
structure InStep (c : Config) (s : Session) (sync : Synchronizer Location) : Prop where
  settled : Settled s sync
  key : sync.key = c.pluginKey
  default : sync.default = c.defaultValue
  names : sync.Names s.state.link

namespace InStep

variable {c : Config} {s : Session} {sync : Synchronizer Location}

theorem start (c : Config) :
    InStep c (start c) (.new Location.empty c.pluginKey c.defaultValue) := by
  obtain ⟨hsettled, hstate, -⟩ := settled_start c
  refine ⟨hsettled, rfl, rfl, fun hready => ?_⟩
  rw [hstate] at hready
  cases (routeReady_withReloadPeriod c.reloadPeriod).symm.trans hready

theorem acted (h : InStep c s sync) (o : Origin) (a : Action) :
    InStep c (s.acted sync o a) (sync.hear s.state (reduce s.state a)) := by
  refine ⟨settled_acted s sync o a, (key_hear ..).trans h.key,
    (default_hear ..).trans h.default, ?_⟩
  refine names_hear sync s.state (reduce s.state a) fun hsame => ?_
  rw [hsame]
  exact h.names

/-- an edit that is reported makes what is typed the selection -/
theorem edited (h : InStep c s sync) (fragment : String) :
    InStep c ((s.edited sync fragment).acted (sync.edit fragment) .queued
        (sync.edit fragment).announcement)
      ((sync.edit fragment).hear s.state (reduce s.state (sync.edit fragment).announcement)) := by
  refine ⟨settled_acted .., (key_hear ..).trans h.key, (default_hear ..).trans h.default, ?_⟩
  exact names_hear (sync.edit fragment) s.state _ fun _ => names_announcement _ s.state

theorem afterAll (h : InStep c s sync) (cs : List Command) :
    ∃ sync', InStep c (s.afterAll cs) sync' :=
  afterAll_induction (fun _ _ h => h.settled) (fun _ _ o a h => h.acted o a)
    (fun _ _ f h => h.edited f) h cs

theorem location (h : InStep c s sync) : s.location = sync.linker := location_settled h.settled

theorem get_location (h : InStep c s sync) (hready : s.state.routeReady = true) :
    s.location.get c.pluginKey = s.state.selection ∨
      s.location.get c.pluginKey = "" ∧ s.state.selection = c.defaultValue := by
  rw [h.location, ← h.key, ← h.default]
  exact h.names hready

end InStep

/-! ## a fragment carried elsewhere -/

theorem after_hash_fragment {c : Config} {s : Session} {sync : Synchronizer Location}
    (h : InStep c s sync) (l : Location) :
    let r := s.after (.hash l.fragment)
    r.state = reduce s.state (.linkedPluginChanged (l.get c.pluginKey)) ∧
      ∀ key ≠ c.pluginKey, r.location.values key = l.values key := by
  intro r
  have hafter : r = _ := hash_settled h.settled l.fragment
  have hparams : (sync.edit l.fragment).linker.params = l.params :=
    l.params_edit_fragment sync.linker
  have hplugin : (sync.edit l.fragment).plugin = l.get c.pluginKey := by
    rw [Synchronizer.plugin_eq_get, Location.get_eq_of_params hparams, ← h.key]
    rfl
  refine ⟨?_, fun key hkey => ?_⟩
  · rw [hafter]
    show reduce s.state (.linkedPluginChanged (sync.edit l.fragment).plugin) = _
    rw [hplugin]
  · have hne : key ≠ (sync.edit l.fragment).key := fun e => hkey (e.trans h.key)
    rw [hafter, location_settled (settled_acted ..), values_hear _ _ _ hne]
    exact congrArg (valuesOf key) hparams

/-- **A link restores the selection.**  Let the default be empty.  The fragment that any session
shows at a route, typed into any other session of the configuration, makes the active plugin there
what it is here, changes nothing else of the state there, and leaves under all other keys of the
address there what the fragment holds. -/
theorem selection_restored (c : Config) (hdefault : c.defaultValue = "") (cs ds : List Command) :
    let a := (start c).afterAll cs
    let b := (start c).afterAll ds
    let r := b.after (.hash a.location.fragment)
    a.state.routeReady = true →
    r.state.activePlugin? = a.state.activePlugin? ∧
    r.state = { b.state with core := { b.state.core with chosen := r.state.core.chosen } } ∧
    ∀ key ≠ c.pluginKey,
      r.location.values key = (Location.ofFragment a.location.fragment).values key := by
  intro a b r hready
  obtain ⟨syncA, ha⟩ := (InStep.start c).afterAll cs
  obtain ⟨syncB, hb⟩ := (InStep.start c).afterAll ds
  have hget : a.location.get c.pluginKey = a.state.selection := by
    rcases ha.get_location hready with h | ⟨h, hselection⟩
    · exact h
    · exact h.trans (hdefault.symm.trans hselection.symm)
  obtain ⟨hstate, hvalues⟩ := after_hash_fragment hb a.location
  refine ⟨?_, ?_, fun key hkey => ?_⟩
  · rw [hstate, hget, activePlugin?_reduce_linked, choiceOf_selection]
  · rw [hstate]
    rfl
  · rw [hvalues key hkey]
    exact congrArg (valuesOf key) a.location.params_ofFragment.symm

/-- a fragment that names the plugin badly, among other keys, in a session that has others -/
theorem selection_restored_misspelt :
    let c : Config := { Config.default with pluginKey := "p q" }
    let a := (start c).afterAll [.route "/", .select (some "b"), .hash "z=1&p+q=%62&&z=%zz"]
    let b := (start c).afterAll [.plugins ["x"], .reload 7, .route "/y", .hash "#k=2"]
    let r := b.after (.hash a.location.fragment)
    c.defaultValue = "" ∧ a.state.routeReady = true ∧
    a.location.fragment = "#z=1&p+q=%62&&z=%zz" ∧
    r.state.activePlugin? = some "b" ∧ r.state.core.plugins = ["x"] ∧
    r.location.values "z" = ["1", "%zz"] ∧ r.location.values "k" = [] := by
  intro c a b r
  have hready : a.state.routeReady = true := by decide +kernel
  have hfragment : a.location.fragment = "#z=1&p+q=%62&&z=%zz" := by decide +kernel
  obtain ⟨hactive, hstate, hvalues⟩ := selection_restored c rfl
    [.route "/", .select (some "b"), .hash "z=1&p+q=%62&&z=%zz"]
    [.plugins ["x"], .reload 7, .route "/y", .hash "#k=2"] hready
  refine ⟨rfl, hready, hfragment, hactive.trans (by decide +kernel), ?_, ?_, ?_⟩
  · rw [hstate]
    decide +kernel
  · exact (hvalues "z" (by decide)).trans (hfragment ▸ by decide +kernel)
  · exact (hvalues "k" (by decide)).trans (hfragment ▸ by decide +kernel)

/-! ## a fragment reported again -/

/-- the fragment that is there is typed: the mount reports what it names, and is told of what
becomes of the state -/
theorem after_hash_location {c : Config} {s : Session} {sync : Synchronizer Location}
    (h : InStep c s sync) :
    let a := sync.announcement
    let r := s.after (.hash s.location.fragment)
    r.trace = s.trace ++ ([.effect (.note sync.announcementEntry), .queued a] ++
        s.news sync .queued a) ∧
      r.location = (sync.hear s.state (reduce s.state a)).linker := by
  intro a r
  have hedit : sync.edit s.location.fragment = sync := by
    rw [h.location]
    show { sync with linker := sync.linker.edit sync.linker.fragment } = sync
    rw [Location.edit_fragment]
  have hafter : r = _ := hash_settled h.settled s.location.fragment
  rw [hafter]
  refine ⟨?_, ?_⟩
  · show s.trace ++ _ ++ s.news _ .queued _ = _
    rw [hedit, List.append_assoc]
  · rw [location_settled (settled_acted ..), hedit]
    rfl

theorem queued_news (s : Session) (sync : Synchronizer Location) (o : Origin) (a : Action) :
    queued (s.news sync o a) = [] := by
  have htold : queued (told sync s.state (reduce s.state a)) = [] := by
    unfold told
    split
    · rfl
    · simp [queued]
  unfold news
  rw [queued_append, htold]
  simp [queued]

theorem sent_news_unchanged {s : Session} {plugin : String}
    (hs : reduce s.state (.linkedPluginChanged plugin) = s.state) (sync : Synchronizer Location)
    (o : Origin) : sent (effects (s.news sync o (.linkedPluginChanged plugin))) = [] := by
  have htold : told sync s.state s.state = [] := if_pos rfl
  have hsent : sent (transitionEffects s.observers s.state (.linkedPluginChanged plugin)) = [] := by
    rw [sent_transitionEffects, hs]
    refine List.flatMap_eq_nil_iff.mpr fun o _ => ?_
    cases o with
    | analytics key ready => simp [Observer.effects, Observer.pageView, Observer.report, sent]
    | logging => exact Observer.sent_effects_logging ..
  unfold news
  rw [hs, htold, List.append_nil]
  refine Eq.trans (congrArg sent ?_) hsent
  show List.filterMap Happening.effect? (_ :: _) = _
  rw [List.filterMap_cons_none rfl, List.filterMap_map]
  exact List.filterMap_some

theorem state_after {s : Session} {sync : Synchronizer Location} (h : Settled s sync)
    (command : Command) :
    (s.after command).state = s.state ∨
      ∃ a, (s.after command).state = reduce s.state a ∧
        (action? command = some a ∨ ∃ plugin, a = .linkedPluginChanged plugin) := by
  by_cases hc : ∃ f, command = .hash f
  · obtain ⟨f, rfl⟩ := hc
    rw [hash_settled h f]
    exact .inr ⟨(sync.edit f).announcement, rfl, .inr ⟨_, rfl⟩⟩
  · have hno : ∀ f, command ≠ .hash f := fun f hf => hc ⟨f, hf⟩
    cases ha : action? command with
    | none => exact .inl (congrArg Store.state (after_of_action?_eq_none s hno ha))
    | some a =>
      rw [after_of_action? s ha, dispatch_settled h]
      exact .inr ⟨a, rfl, .inl rfl⟩

theorem chosen_reduce {x : State} (hx : x.core.chosen ≠ some "") {a : Action}
    (ha : ∀ ids, a = .listingLoaded ids → "" ∉ ids) : (reduce x a).core.chosen ≠ some "" := by
  intro hblank
  rcases (chosen_reduce_eq_blank x a).mp hblank with ⟨-, ids, hlisting⟩ | ⟨hbefore, -⟩
  · exact ha _ hlisting (List.mem_cons_self ..)
  · exact hx hbefore

/-- if no listing holds the empty name, it is never chosen -/
theorem chosen_afterAll {s : Session} {sync : Synchronizer Location} (h : Settled s sync)
    (hs : s.state.core.chosen ≠ some "") {cs : List Command}
    (hcs : ∀ ids, .plugins ids ∈ cs → "" ∉ ids) : (s.afterAll cs).state.core.chosen ≠ some "" := by
  induction cs generalizing s sync with
  | nil => exact hs
  | cons command cs ih =>
    obtain ⟨sync', h'⟩ := settled_after h command
    refine ih h' ?_ fun ids hids => hcs ids (List.mem_cons_of_mem _ hids)
    rcases state_after h command with hstate | ⟨a, hstate, ha⟩
    · rwa [hstate]
    · rw [hstate]
      refine chosen_reduce hs fun ids hids => hcs ids ?_
      subst hids
      rcases ha with ha | ⟨plugin, ha⟩
      · have hcommand : command = .plugins ids := by
          cases command <;> cases ha
          rfl
        exact hcommand ▸ List.mem_cons_self ..
      · cases ha

/-- **An echo changes nothing, but for a default.**  When the fragment is reported where it is, at a
route, what is dispatched is what it names.  That is the selection, or it is nothing and the
selection is the configured default.  If it is the selection, then state and history stay as they
are and nothing is sent; otherwise the selection is lost.  (Listings do not hold the empty name; a
line that lists plugins never does.) -/
theorem echo_noop (c : Config) (cs : List Command) (hcs : ∀ ids, .plugins ids ∈ cs → "" ∉ ids) :
    let s := (start c).afterAll cs
    let named := s.location.get c.pluginKey
    let t := s.after (.hash s.location.fragment)
    s.state.routeReady = true →
    ∃ d, t.trace = s.trace ++ d ∧ queued d = [.linkedPluginChanged named] ∧
      processed d = [.linkedPluginChanged named] ∧
      (named = s.state.selection ∨ named = "" ∧ s.state.selection = c.defaultValue) ∧
      (named = s.state.selection →
        t.state = s.state ∧ t.location = s.location ∧ sent (effects d) = []) ∧
      (named ≠ s.state.selection → t.state.activePlugin? = none) := by
  intro s named t hready
  obtain ⟨hstart, hinitial, -⟩ := settled_start c
  obtain ⟨sync, hs⟩ := (InStep.start c).afterAll cs
  have hchosen : s.state.core.chosen ≠ some "" := by
    refine chosen_afterAll hstart ?_ hcs
    rw [hinitial]
    unfold State.withReloadPeriod
    split <;> exact nofun
  have hannouncement : sync.announcement = .linkedPluginChanged named := by
    unfold Synchronizer.announcement
    rw [Synchronizer.plugin_eq_get, hs.key, ← hs.location]
  obtain ⟨htrace, hlocation⟩ := after_hash_location hs
  rw [hannouncement] at htrace hlocation
  have hnames := hs.get_location hready
  have hstate : t.state = reduce s.state (.linkedPluginChanged named) :=
    (after_hash_fragment hs s.location).1
  refine ⟨_, htrace, ?_, ?_, hnames, ?_, ?_⟩
  · rw [queued_append, queued_news]
    rfl
  · rw [processed_append, processed_news]
    rfl
  · intro hnamed
    have hsame : reduce s.state (.linkedPluginChanged named) = s.state := by
      rw [hnamed]
      exact reduce_linked_selection hchosen
    refine ⟨hstate.trans hsame, ?_, ?_⟩
    · -- the state is as before, so the mount is not told
      have hhear : sync.hear s.state s.state = sync := if_pos rfl
      rw [hsame, hhear] at hlocation
      exact hlocation.trans hs.location.symm
    · rw [effects_append, sent_append, sent_news_unchanged hsame]
      rfl
  · intro hlost
    have hnothing : named = "" := (hnames.resolve_left hlost).1
    rw [hstate, activePlugin?_reduce_linked, hnothing]
    rfl

/-- a fragment that spells the plugin its own way, reported again -/
theorem echo_noop_spelt :
    let c : Config := { Config.default with defaultValue := "b" }
    let s := (start c).afterAll [.route "/", .select (some "x"), .hash "k=1&plugin=%78"]
    let t := s.after (.hash s.location.fragment)
    s.location.fragment = "#k=1&plugin=%78" ∧ s.state.activePlugin? = some "x" ∧
    t.state = s.state ∧ t.location = s.location ∧
    ∃ d, t.trace = s.trace ++ d ∧ queued d = [.linkedPluginChanged "x"] ∧
      sent (effects d) = [] := by
  intro c s t
  have hready : s.state.routeReady = true := by decide +kernel
  have hnamed : s.location.get c.pluginKey = "x" := by decide +kernel
  have hselection : s.state.selection = "x" := by decide +kernel
  obtain ⟨d, htrace, hqueued, -, -, hsame, -⟩ := echo_noop c
    [.route "/", .select (some "x"), .hash "k=1&plugin=%78"] (by simp) hready
  obtain ⟨hstate, hlocation, hsent⟩ := hsame (hnamed.trans hselection.symm)
  exact ⟨by decide +kernel, by decide +kernel, hstate, hlocation, d, htrace,
    hnamed ▸ hqueued, hsent⟩

/-- the default, selected at a route, is lost when the fragment is reported again -/
theorem echo_unsets_default :
    let c : Config := { Config.default with defaultValue := "b" }
    let s := (start c).afterAll [.route "/", .select (some "b")]
    let t := s.after (.hash s.location.fragment)
    s.state.routeReady = true ∧ s.state.activePlugin? = some "b" ∧ s.location.fragment = "" ∧
    t.state.activePlugin? = none ∧ t.location.fragment = "#plugin=" ∧
    t.location.history = s.location.history ++ ["plugin="] := by
  decide +kernel

end Session

end TabShell

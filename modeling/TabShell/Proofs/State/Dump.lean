import TabShell.Proofs.Json.RoundTrip
import TabShell.Session
/-!
# The printed state

The state that a session prints is a JSON document, from which the same state is read.

* `fields?_ofFields`       the fields of a record whose names are all different;
* `State.ofJson?_toJson`   a state is read from its JSON value;
* `State.plain_toJson`     that value is made of texts and natural numbers, so it prints and reads
                           back;
* `load?_printed`          the text that is printed stands for the state that printed it.
-/

namespace TabShell

namespace Json

theorem mapM_eq_some_map {α β : Type} {f : α → Option β} {g : α → β} {as : List α}
    (h : ∀ a ∈ as, f a = some (g a)) : as.mapM f = some (as.map g) := by
  induction as with
  | nil => rfl
  | cons a as ih =>
    have hrest := ih fun b hb => h b (List.mem_cons_of_mem a hb)
    rw [List.mapM_cons, h a (List.mem_cons_self ..), hrest]
    rfl

/-- a record with these fields -/
def ofFields (ms : List (String × Json)) : Json := object (ms.map fun m => (key m.1, m.2))

theorem filter_name {ms : List (String × Json)} (hms : (ms.map (·.1)).Nodup) {m : String × Json}
    (hm : m ∈ ms) : ms.filter (fun x => decide (x.1 = m.1)) = [m] := by
  induction ms with
  | nil => cases hm
  | cons x ms ih =>
    rw [List.map_cons, List.nodup_cons] at hms
    obtain ⟨hx, hms⟩ := hms
    rcases List.mem_cons.mp hm with rfl | hm
    · have hnone : ms.filter (fun x => decide (x.1 = m.1)) = [] := by
        rw [List.filter_eq_nil_iff]
        intro y hy hname
        exact hx (List.mem_map.mpr ⟨y, hy, of_decide_eq_true hname⟩)
      rw [List.filter_cons_of_pos (by simp), hnone]
    · have hne : x.1 ≠ m.1 := fun h => hx (List.mem_map.mpr ⟨m, hm, h.symm⟩)
      rw [List.filter_cons_of_neg (by simpa using hne), ih hms hm]

theorem fields?_ofFields (ms : List (String × Json)) (hms : (ms.map (·.1)).Nodup) :
    fields? (ms.map (·.1)) (ofFields ms) = some (ms.map fun m => some m.2) := by
  have hmembers : (ms.map fun m => (key m.1, m.2)).mapM
      (fun m => (unescape m.1).map fun k => (String.ofList k, m.2)) = some ms := by
    have hkey : ∀ m ∈ ms, (unescape (key m.1)).map (fun k => (String.ofList k, m.2)) = some m := by
      intro m _
      rw [key, unescape_escape, Option.map_some, String.ofList_toList]
    have hkeys := mapM_eq_some_map (g := id) hkey
    rw [List.map_id] at hkeys
    rw [List.mapM_map]
    exact hkeys
  unfold ofFields fields?
  simp only
  rw [hmembers]
  show (ms.map (·.1)).mapM _ = _
  rw [List.mapM_map]
  refine mapM_eq_some_map fun m hm => ?_
  simp only [Function.comp_apply, filter_name hms hm]

theorem plain_ofFields (ms : List (String × Json)) (h : ∀ m ∈ ms, Plain m.2) :
    Plain (ofFields ms) := by
  refine .object (fun m hm => ?_) (fun m hm => ?_)
  · obtain ⟨n, -, rfl⟩ := List.mem_map.mp hm
    exact ⟨_, rfl⟩
  · obtain ⟨n, hn, rfl⟩ := List.mem_map.mp hm
    exact h n hn

theorem plain_ofOption {α : Type} {f : α → Json} (h : ∀ a, Plain (f a)) (v : Option α) :
    Plain (ofOption (v.map f)) := by
  cases v with
  | none => exact .null
  | some a => exact h a

theorem optional?_ofOption {α : Type} {f : α → Json} {read? : Json → Option α}
    (h : ∀ a, read? (f a) = some a) (hnull : ∀ a, f a ≠ null) (v : Option α) :
    optional? read? (some (ofOption (v.map f))) = some v := by
  cases v with
  | none => rfl
  | some a =>
    show optional? read? (some (f a)) = some (some a)
    unfold optional?
    split
    · next hn => cases hn
    · next hn => exact absurd (Option.some.inj hn) (hnull a)
    · next w _ hw =>
      rw [← Option.some.inj hw, h]
      rfl

theorem texts?_map_ofText (ss : List String) : texts? (array (ss.map ofText)) = some ss := by
  show (ss.map ofText).mapM text? = some ss
  have hss : ss.mapM (fun s => text? (ofText s)) = some (ss.map id) :=
    mapM_eq_some_map fun s _ => text?_ofText s
  rw [List.map_id] at hss
  rw [List.mapM_map]
  exact hss

theorem word64?_ofNat (n : UInt64) : word64? (ofNat n.toNat) = some n := by
  unfold word64?
  rw [nat?_ofNat, Option.bind_some, if_pos n.toNat_lt, UInt64.ofNat_toNat]

end Json

open Json

theorem Listing.ofJson?_toJson (l : Listing) : Listing.ofJson? l.toJson = some l := by
  cases l <;> decide

theorem Listing.plain_toJson (l : Listing) : Plain l.toJson := by
  cases l <;> exact .ofText _

/-- the fields of a core, in order -/
def Core.fields (c : Core) : List (String × Json) :=
  [("active_plugin", ofOption (c.chosen.map ofText)), ("plugins", .array (c.plugins.map ofText)),
   ("plugins_list_loaded", c.listing.toJson), ("core_loaded", .bool c.loaded),
   ("reload_enabled", .bool c.reloadEnabled), ("reload_period_ms", ofNat c.reloadPeriod.toNat)]

theorem Core.toJson_eq (c : Core) : c.toJson = ofFields c.fields := rfl

theorem Core.plain_toJson (c : Core) : Plain c.toJson := by
  have hplugins : Plain (.array (c.plugins.map ofText)) := by
    refine .array fun v hv => ?_
    obtain ⟨s, -, rfl⟩ := List.mem_map.mp hv
    exact .ofText s
  rw [toJson_eq]
  refine plain_ofFields _ fun m hm => ?_
  simp only [fields, List.mem_cons, List.not_mem_nil, or_false] at hm
  rcases hm with rfl | rfl | rfl | rfl | rfl | rfl
  · exact plain_ofOption .ofText c.chosen
  · exact hplugins
  · exact c.listing.plain_toJson
  · exact .bool _
  · exact .bool _
  · exact .ofNat _

theorem Core.ofJson?_toJson (c : Core) : Core.ofJson? c.toJson = some c := by
  have hnames : (c.fields.map (·.1)).Nodup :=
    show ["active_plugin", "plugins", "plugins_list_loaded", "core_loaded", "reload_enabled",
      "reload_period_ms"].Nodup by decide
  have hfields : fields? ["active_plugin", "plugins", "plugins_list_loaded", "core_loaded",
      "reload_enabled", "reload_period_ms"] c.toJson = some (c.fields.map fun m => some m.2) :=
    fields?_ofFields _ hnames
  have hchosen := optional?_ofOption text?_ofText nofun c.chosen
  unfold Core.ofJson?
  rw [hfields]
  simp [fields, hchosen, texts?_map_ofText, Listing.ofJson?_toJson, bool?, word64?_ofNat]

theorem plain_routeToJson (path : String) : Plain (routeToJson path) :=
  plain_ofFields [("path", ofText path)] fun m hm => by
    rw [List.mem_singleton.mp hm]
    exact .ofText path

theorem routeOfJson?_routeToJson (path : String) : routeOfJson? (routeToJson path) = some path := by
  have hfields := fields?_ofFields [("path", ofText path)] (by simp)
  have hroute : fields? ["path"] (routeToJson path) = some [some (ofText path)] := hfields
  unfold routeOfJson?
  rw [hroute]
  exact text?_ofText path

/-- the part of the document that is about the route -/
def routeField (route : Option String) : List (String × Json) :=
  [("active_route", ofOption (route.map routeToJson))]

theorem activeRouteOfJson?_routeField (route : Option String) :
    activeRouteOfJson? (ofFields (routeField route)) = some route := by
  have hfields := fields?_ofFields (routeField route) (by simp [routeField])
  have hroute : fields? ["active_route"] (ofFields (routeField route)) =
      some [some (ofOption (route.map routeToJson))] := hfields
  unfold activeRouteOfJson?
  rw [hroute]
  exact optional?_ofOption routeOfJson?_routeToJson nofun route

namespace State

/-- the two fields of a state -/
def fields (s : State) : List (String × Json) :=
  [("core", s.core.toJson), ("route", ofFields (routeField s.route))]

theorem toJson_eq (s : State) : s.toJson = ofFields s.fields := rfl

theorem plain_toJson (s : State) : Plain s.toJson := by
  have hroute : Plain (ofFields (routeField s.route)) := by
    refine plain_ofFields _ fun m hm => ?_
    rw [List.mem_singleton.mp hm]
    exact plain_ofOption plain_routeToJson s.route
  rw [toJson_eq]
  refine plain_ofFields _ fun m hm => ?_
  simp only [fields, List.mem_cons, List.not_mem_nil, or_false] at hm
  rcases hm with rfl | rfl
  · exact s.core.plain_toJson
  · exact hroute

theorem ofJson?_toJson (s : State) : ofJson? s.toJson = some s := by
  have hnames : (s.fields.map (·.1)).Nodup := show ["core", "route"].Nodup by decide
  have hfields : fields? ["core", "route"] s.toJson = some (s.fields.map fun m => some m.2) :=
    fields?_ofFields _ hnames
  unfold ofJson?
  rw [hfields]
  simp [fields, Core.ofJson?_toJson, activeRouteOfJson?_routeField]

/-- a document is read with any blanks after it -/
theorem load?_dump_append (s : State) {blanks : String}
    (hblanks : ∀ c ∈ blanks.toList, isSpace c = true) : load? (s.dump ++ blanks) = some s := by
  unfold load? dump
  rw [String.toList_append, String.toList_ofList, read?_render s.plain_toJson hblanks,
    Option.bind_some, ofJson?_toJson]

end State

/-- **The printed state is the state.**  Whatever the state of a session, what it prints when it is
asked for it, the document of the state and the end of the line, is read as that state again; and
it leaves the session as it was. -/
theorem load?_printed (state : State) :
    State.load? (state.dump ++ "\n") = some state ∧
    ∀ s : Session, Session.apply { s with state } .state =
      ⟨{ s with state }, state.dump ++ "\n", true⟩ := by
  refine ⟨state.load?_dump_append ?_, fun _ => rfl⟩
  intro c hc
  have hline : c = '\n' := by simpa using hc
  rw [hline]
  rfl

/-- every part on a line of its own, two blanks further in than what it is a part of -/
example :
    render 0 (ofFields [("plugins", .array [ofText "a\"é", ofText "\x01"]), ("route", .null)]) =
      "\x7b\n  \"plugins\": [\n    \"a\\\"é\",\n    \"\\u0001\"\n  ],\n".toList ++
        "  \"route\": null\n\x7d".toList := by
  decide +kernel

end TabShell

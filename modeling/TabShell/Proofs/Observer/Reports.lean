import TabShell.Observer
/-!
# What analytics reports

Analytics is silent until the core has loaded, and says nothing of the loading itself, however
often it happens.  Of every other transition it reports a page, if its key names another one than
before, and then a change of the period, if that was asked for.

* `Shown.visit`, `Shown.schedule`, `Shown.reports`   what there is to report of one transition;
* `afterLoading`       the transitions after the first that loads the core;
* `sent_watch`         what is sent while transitions are shown;
* `recorded_watch`     the same for every sink that records, with the readiness.
-/

namespace TabShell.Observer

variable {key : State → Option String}

/-! ## one transition -/

def Shown.loads (t : Shown) : Bool := decide (t.action = .coreLoaded)

/-- the page that is named after a transition and was not named before it -/
def Shown.visit (key : State → Option String) (t : Shown) : List Event :=
  match key t.after with
  | some page => if page ≠ "" ∧ key t.before ≠ some page then [⟨.pageView, page⟩] else []
  | none => []

/-- a change of the period, to whatever it was asked to be -/
def Shown.schedule (t : Shown) : List Event :=
  match t.action with
  | .reloadPeriodChanged _ => [⟨.generic, t.action.kind⟩]
  | _ => []

def Shown.reports (key : State → Option String) (t : Shown) : List Event :=
  t.visit key ++ t.schedule

theorem pageView_eq_visit (key : State → Option String) (t : Shown) :
    pageView key t.before t.after = t.visit key := by
  unfold pageView Shown.visit
  cases hafter : key t.after with
  | none => simp
  | some page =>
    show _ = if page ≠ "" ∧ key t.before ≠ some page then _ else _
    by_cases hbefore : key t.before = some page
    · rw [if_pos hbefore, if_neg fun h => h.2 hbefore]
    · rw [if_neg hbefore]
      by_cases hpage : page = ""
      · rw [if_neg fun h => h.1 hpage, hpage]
        rfl
      · rw [if_pos ⟨hpage, hbefore⟩]
        simp [Option.filter, hpage]

theorem report_eq_schedule (t : Shown) : report t.action = t.schedule := by
  unfold report Shown.schedule
  cases t.action <;> rfl

theorem sent_map_send (events : List Event) : sent (events.map .send) = events := by
  unfold sent
  rw [List.filterMap_map]
  exact List.filterMap_some

theorem sent_map_note (entries : List LogEntry) : sent (entries.map .note) = [] := by
  unfold sent
  rw [List.filterMap_map]
  exact List.filterMap_eq_nil_iff.mpr fun _ _ => rfl

theorem sent_effects_loads (ready : Bool) {t : Shown} (ht : t.loads = true) :
    sent ((analytics key ready).effects t.before t.action t.after) = [] := by
  have haction : t.action = .coreLoaded := of_decide_eq_true ht
  cases ready with
  | true => simp [effects, haction, sent]
  | false => simp [effects, haction, sent, Effect.event?]

theorem sent_effects_unready {t : Shown} (ht : t.loads = false) :
    sent ((analytics key false).effects t.before t.action t.after) = [] := by
  have haction : t.action ≠ .coreLoaded := of_decide_eq_false ht
  simp [effects, haction, sent]

theorem sent_effects_ready {t : Shown} (ht : t.loads = false) :
    sent ((analytics key true).effects t.before t.action t.after) = t.reports key := by
  have haction : t.action ≠ .coreLoaded := of_decide_eq_false ht
  have heffects : (analytics key true).effects t.before t.action t.after =
      (pageView key t.before t.after ++ report t.action).map .send := by
    simp [effects, haction]
  rw [heffects, sent_map_send, pageView_eq_visit, report_eq_schedule]
  rfl

/-! ## several transitions -/

/-- the transitions after the first that loads the core -/
def afterLoading (ts : List Shown) : List Shown := (ts.dropWhile fun t => !t.loads).tail

theorem afterLoading_cons_loads {t : Shown} (ht : t.loads = true) (ts : List Shown) :
    afterLoading (t :: ts) = ts := by
  unfold afterLoading
  rw [List.dropWhile_cons_of_neg (by simp [ht])]
  rfl

theorem afterLoading_cons {t : Shown} (ht : t.loads = false) (ts : List Shown) :
    afterLoading (t :: ts) = afterLoading ts := by
  unfold afterLoading
  rw [List.dropWhile_cons_of_pos (by simp [ht])]

theorem afterLoading_eq_nil {ts : List Shown} (h : ∀ t ∈ ts, t.loads = false) :
    afterLoading ts = [] := by
  induction ts with
  | nil => rfl
  | cons t ts ih =>
    rw [afterLoading_cons (h t (List.mem_cons_self ..))]
    exact ih fun u hu => h u (List.mem_cons_of_mem t hu)

theorem shown_analytics (ready : Bool) (ts : List Shown) :
    (analytics key ready).shown ts = analytics key (ready || ts.any Shown.loads) := by
  induction ts generalizing ready with
  | nil => simp [shown]
  | cons t ts ih =>
    show (analytics key (ready || t.loads)).shown ts = _
    rw [ih, List.any_cons, Bool.or_assoc]

theorem sent_watch_cons (o : Observer) (t : Shown) (ts : List Shown) :
    sent (o.watch (t :: ts)) =
      sent (o.effects t.before t.action t.after) ++ sent ((o.next t.action).watch ts) :=
  sent_append _ _

/-- once the core has loaded, every transition is reported but its loading again -/
theorem sent_watch_ready (ts : List Shown) :
    sent ((analytics key true).watch ts) =
      (ts.filter fun t => !t.loads).flatMap (Shown.reports key) := by
  induction ts with
  | nil => rfl
  | cons t ts ih =>
    have hnext : (analytics key true).next t.action = analytics key true := rfl
    rw [sent_watch_cons, hnext, ih]
    cases ht : t.loads with
    | true =>
      rw [sent_effects_loads true ht, List.filter_cons_of_neg (by simp [ht])]
      rfl
    | false =>
      rw [sent_effects_ready ht, List.filter_cons_of_pos (by simp [ht]), List.flatMap_cons]

/-- what is sent while transitions are shown from the beginning -/
theorem sent_watch (ts : List Shown) :
    sent ((analytics key false).watch ts) =
      ((afterLoading ts).filter fun t => !t.loads).flatMap (Shown.reports key) := by
  induction ts with
  | nil => rfl
  | cons t ts ih =>
    have hnext : (analytics key false).next t.action = analytics key t.loads := rfl
    rw [sent_watch_cons, hnext]
    cases ht : t.loads with
    | true =>
      rw [sent_effects_loads false ht, sent_watch_ready, afterLoading_cons_loads ht]
      rfl
    | false =>
      rw [sent_effects_unready ht, ih, afterLoading_cons ht]
      rfl

theorem received_of_records {sink : Sink} (records : ∀ e, (sink.send e).kept = [e])
    (es : List Effect) : sink.received es = sent es := by
  unfold Sink.received
  simp only [records]
  exact List.flatMap_singleton' (sent es)

/-- **What analytics records.**  For every key and every sink that records: of the transitions
after the first that loads the core, and in their order, all those that do not load it again are
reported, each by the page that it visits and then by its change of the period.  Nothing is
recorded while only other transitions have been shown, and analytics is ready exactly when one
that loads the core has been. -/
theorem recorded_watch (key : State → Option String) (sink : Sink)
    (records : ∀ e, (sink.send e).kept = [e]) (ts : List Shown) :
    let o := analytics key false
    sink.received (o.watch ts) =
      ((afterLoading ts).filter fun t => !t.loads).flatMap (fun t => t.visit key ++ t.schedule) ∧
    (∀ us, us <+: ts → (∀ t ∈ us, t.action ≠ .coreLoaded) → sink.received (o.watch us) = []) ∧
    ((o.shown ts).isReady = true ↔ ∃ t ∈ ts, t.action = .coreLoaded) := by
  intro o
  refine ⟨?_, ?_, ?_⟩
  · rw [received_of_records records, sent_watch]
    rfl
  · intro us _ hus
    have hsilent : ∀ t ∈ us, t.loads = false := fun t ht => decide_eq_false (hus t ht)
    rw [received_of_records records, sent_watch, afterLoading_eq_nil hsilent]
    rfl
  · rw [shown_analytics]
    show (false || ts.any Shown.loads) = true ↔ _
    rw [Bool.false_or, List.any_eq_true]
    simp only [Shown.loads, decide_eq_true_eq]

/-- a page that was named early, one that comes with a second loading, and a period of zero -/
theorem recorded_watch_twice_loaded :
    let named (page : String) : State :=
      { State.initial with core := { State.initial.core with chosen := some page } }
    let ts : List Shown :=
      [⟨State.initial, .pluginChanged "a", named "a"⟩,
       ⟨named "a", .coreLoaded, named "b"⟩,
       ⟨named "c", .pluginChanged "d", named "d"⟩,
       ⟨named "d", .coreLoaded, named "e"⟩,
       ⟨named "e", .reloadPeriodChanged 0, named "e"⟩,
       ⟨named "e", .pluginChanged "", named ""⟩,
       ⟨named "", .reloadPeriodChanged 5, named "f"⟩]
    let o := analytics (fun s => s.core.chosen) false
    (∀ e, (Sink.memory.send e).kept = [e]) ∧
    Sink.memory.received (o.watch ts) =
      [⟨.pageView, "d"⟩, ⟨.generic, "[Core] Reload Period Changed"⟩, ⟨.pageView, "f"⟩,
       ⟨.generic, "[Core] Reload Period Changed"⟩] ∧
    (o.shown ts).isReady = true := by
  intro named ts o
  have records : ∀ e, (Sink.memory.send e).kept = [e] := fun _ => rfl
  obtain ⟨hrecorded, -, hready⟩ := recorded_watch (fun s => s.core.chosen) .memory records ts
  refine ⟨records, hrecorded.trans (by decide), hready.mpr ?_⟩
  exact ⟨⟨named "a", .coreLoaded, named "b"⟩, by simp [ts], rfl⟩

end TabShell.Observer

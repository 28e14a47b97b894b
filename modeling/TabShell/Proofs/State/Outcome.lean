import Mathlib.Data.List.DropRight
import Mathlib.Logic.Function.Iterate
import TabShell.Proofs.State.Choice
/-!
# What a run of actions comes to

Most of the state is what the last action says that says something about it.  Only three parts are
not: that the core has loaded is never unsaid, every toggle counts, and a listing chooses a plugin
only where none is chosen.

* `latest`            the last thing said;
* `foldl_reduce_latest`   the parts of the state of that kind;
* `firstListed`, `sinceChoice`, `chosenAfter`   the plugin that is chosen in the end;
* `core_foldl_reduce`, `route_foldl_reduce`   each half of the state by its own actions;
* `foldl_reduce_eq`   the whole state in the end.
-/

namespace TabShell

/-! ## what an action says -/

/-- the period that an action asks for; zero is no period -/
def Action.period? : Action → Option UInt64
  | reloadPeriodChanged period => if period = 0 then none else some period
  | _ => none

def Action.plugins? : Action → Option (List String)
  | listingLoaded plugins => some plugins
  | _ => none

/-- how far the listing has got when an action about it has happened -/
def Action.listing? : Action → Option Listing
  | listingRequested => some .loading
  | listingLoaded _ => some .loaded
  | listingFailed => some .failed
  | _ => none

/-- where the page is when an action about the route has happened -/
def Action.route? : Action → Option (Option String)
  | navigated path => some (some path)
  | routeCleared => some none
  | _ => none

/-- whether an action is about the core -/
def Action.isCore (a : Action) : Bool := !a.isRoute && decide (a ≠ .nothing)

/-! ## the last thing said -/

variable {α : Type}

/-- what the last action says that says something, or else what held before -/
def latest (tells : Action → Option α) (start : α) (as : List Action) : α :=
  (as.filterMap tells).getLast?.getD start

theorem latest_cons (tells : Action → Option α) (start : α) (a : Action) (as : List Action) :
    latest tells start (a :: as) = latest tells ((tells a).getD start) as := by
  unfold latest
  rw [List.filterMap_cons]
  cases tells a with
  | none => rfl
  | some v =>
    show (v :: as.filterMap tells).getLast?.getD start = _
    rw [List.getLast?_cons]
    rfl

/-- a part of the state that an action changes to what it says of it -/
theorem foldl_reduce_latest (part : State → α) {tells : Action → Option α}
    (h : ∀ s a, part (reduce s a) = (tells a).getD (part s)) (s : State) (as : List Action) :
    part (as.foldl reduce s) = latest tells (part s) as := by
  induction as generalizing s with
  | nil => rfl
  | cons a as ih => rw [List.foldl_cons, ih, latest_cons, h]

theorem reloadPeriod_reduce (s : State) (a : Action) :
    (reduce s a).core.reloadPeriod = a.period?.getD s.core.reloadPeriod := by
  cases a with
  | reloadPeriodChanged period =>
    show (if period = 0 then s.core else _).reloadPeriod = (if period = 0 then none else _).getD _
    split <;> rfl
  | _ => rfl

theorem plugins_reduce (s : State) (a : Action) :
    (reduce s a).core.plugins = a.plugins?.getD s.core.plugins := by
  cases a with
  | reloadPeriodChanged period =>
    show (if period = 0 then s.core else _).plugins = _
    split <;> rfl
  | _ => rfl

theorem listing_reduce (s : State) (a : Action) :
    (reduce s a).core.listing = a.listing?.getD s.core.listing := by
  cases a with
  | reloadPeriodChanged period =>
    show (if period = 0 then s.core else _).listing = _
    split <;> rfl
  | _ => rfl

theorem route_reduce (s : State) (a : Action) :
    (reduce s a).route = a.route?.getD s.route := by
  cases a <;> rfl

/-! ## what is never unsaid, and what is turned over -/

theorem loaded_reduce (s : State) (a : Action) :
    (reduce s a).core.loaded = (s.core.loaded || decide (a = .coreLoaded)) := by
  cases a with
  | coreLoaded => exact (Bool.or_true _).symm
  | reloadPeriodChanged period =>
    show (if period = 0 then s.core else _).loaded = _
    split <;> exact (Bool.or_false _).symm
  | _ => exact (Bool.or_false _).symm

theorem loaded_foldl_reduce (s : State) (as : List Action) :
    (as.foldl reduce s).core.loaded = (s.core.loaded || decide (.coreLoaded ∈ as)) := by
  induction as generalizing s with
  | nil => exact (Bool.or_false _).symm
  | cons a as ih =>
    rw [List.foldl_cons, ih, loaded_reduce, Bool.or_assoc]
    simp [eq_comm]

theorem reloadEnabled_reduce (s : State) (a : Action) :
    (reduce s a).core.reloadEnabled =
      if a = .reloadToggled then !s.core.reloadEnabled else s.core.reloadEnabled := by
  cases a with
  | reloadPeriodChanged period =>
    show (if period = 0 then s.core else _).reloadEnabled = _
    split <;> rfl
  | _ => rfl

theorem reloadEnabled_foldl_reduce (s : State) (as : List Action) :
    (as.foldl reduce s).core.reloadEnabled =
      not^[as.count .reloadToggled] s.core.reloadEnabled := by
  induction as generalizing s with
  | nil => rfl
  | cons a as ih =>
    rw [List.foldl_cons, ih, reloadEnabled_reduce, List.count_cons]
    by_cases ha : a = .reloadToggled
    · simp [ha]
    · simp [ha]

/-! ## the choice -/

/-- the first plugin of the first list that is not empty -/
def firstListed (as : List Action) : Option String :=
  (as.filterMap Action.plugins?).findSome? List.head?

/-- the actions after the last that chooses -/
def sinceChoice (as : List Action) : List Action := as.rtakeWhile fun a => a.choice?.isNone

/-- the name that is chosen in the end: the last that anyone has chosen, whatever was listed then;
or, if the last choice was to have none, the first plugin listed since; or, if nobody has chosen,
what was chosen before, and failing that the first plugin listed at all -/
def chosenAfter (start : Option String) (as : List Action) : Option String :=
  match (as.filterMap Action.choice?).getLast? with
  | some plugin => if plugin = "" then firstListed (sinceChoice as) else some plugin
  | none => start.or (firstListed as)

theorem firstListed_concat (as : List Action) (a : Action) :
    firstListed (as ++ [a]) = (firstListed as).or (a.plugins?.bind List.head?) := by
  unfold firstListed
  rw [List.filterMap_append, List.findSome?_append]
  cases ha : a.plugins? with
  | none =>
    rw [List.filterMap_cons_none ha]
    rfl
  | some ids =>
    rw [List.filterMap_cons_some ha, List.filterMap_nil, List.findSome?_singleton]
    rfl

theorem chosen_reduce_of_choice (s : State) {a : Action} {plugin : String}
    (h : a.choice? = some plugin) : (reduce s a).core.chosen = choiceOf plugin := by
  cases a with
  | pluginChanged p | linkedPluginChanged p => exact congrArg choiceOf (Option.some.inj h)
  | _ => cases h

theorem chosen_reduce_of_no_choice (s : State) {a : Action} (h : a.choice? = none) :
    (reduce s a).core.chosen = s.core.chosen.or (a.plugins?.bind List.head?) := by
  cases a with
  | pluginChanged p | linkedPluginChanged p => cases h
  | listingLoaded ids => exact Option.orElse_eq_or
  | reloadPeriodChanged period =>
    show (if period = 0 then s.core else _).chosen = _
    split <;> exact Option.or_none.symm
  | _ => exact Option.or_none.symm

theorem chosen_foldl_reduce (s : State) (as : List Action) :
    (as.foldl reduce s).core.chosen = chosenAfter s.core.chosen as := by
  induction as using List.reverseRecOn with
  | nil => exact Option.or_none.symm
  | append_singleton as a ih =>
    rw [List.foldl_append]
    show (reduce (as.foldl reduce s) a).core.chosen = _
    unfold chosenAfter
    rw [List.filterMap_append]
    cases ha : a.choice? with
    | some plugin =>
      have hlast : (as.filterMap Action.choice? ++ [a].filterMap Action.choice?).getLast? =
          some plugin := by
        rw [List.filterMap_cons_some ha, List.filterMap_nil, List.getLast?_concat]
      have hsince : sinceChoice (as ++ [a]) = [] :=
        List.rtakeWhile_concat_neg _ _ _ (by simp [ha])
      rw [chosen_reduce_of_choice _ ha, hlast, hsince]
      unfold choiceOf
      rfl
    | none =>
      have hlast : as.filterMap Action.choice? ++ [a].filterMap Action.choice? =
          as.filterMap Action.choice? := by
        rw [List.filterMap_cons_none ha, List.filterMap_nil, List.append_nil]
      have hsince : sinceChoice (as ++ [a]) = sinceChoice as ++ [a] :=
        List.rtakeWhile_concat_pos _ _ _ (by simp [ha])
      rw [chosen_reduce_of_no_choice _ ha, ih, hlast, hsince, firstListed_concat,
        firstListed_concat]
      unfold chosenAfter
      cases (as.filterMap Action.choice?).getLast? with
      | none => exact Option.or_assoc
      | some plugin =>
        show Option.or (if plugin = "" then _ else _) _ = if plugin = "" then _ else _
        split <;> rfl

/-! ## the two halves -/

/-- what changes nothing can be left out of a run -/
theorem foldl_filter_of_idle {step : α → Action → α} {p : Action → Bool}
    (h : ∀ x a, p a = false → step x a = x) (x : α) (as : List Action) :
    (as.filter p).foldl step x = as.foldl step x := by
  induction as generalizing x with
  | nil => rfl
  | cons a as ih =>
    cases ha : p a with
    | true => rw [List.filter_cons_of_pos ha, List.foldl_cons, List.foldl_cons, ih]
    | false => rw [List.filter_cons_of_neg (by simp [ha]), List.foldl_cons, ih, h x a ha]

theorem Core.reduce_not_isCore (c : Core) {a : Action} (h : a.isCore = false) :
    c.reduce a = c := by
  cases a with
  | navigated path | routeCleared | nothing => rfl
  | _ => cases h

theorem core_foldl_reduce (s : State) (as : List Action) :
    (as.foldl reduce s).core = (as.filter Action.isCore).foldl Core.reduce s.core := by
  have hidle : (as.filter Action.isCore).foldl Core.reduce s.core = as.foldl Core.reduce s.core :=
    foldl_filter_of_idle (fun c a h => Core.reduce_not_isCore c (a := a) h) s.core as
  rw [hidle]
  exact (List.foldl_hom State.core fun _ _ => rfl).symm

theorem route_foldl_reduce (s : State) (as : List Action) :
    (as.foldl reduce s).route = (as.filter Action.isRoute).foldl reduceRoute s.route := by
  have hidle : (as.filter Action.isRoute).foldl reduceRoute s.route =
      as.foldl reduceRoute s.route :=
    foldl_filter_of_idle (fun r a h => reduceRoute_not_isRoute r (a := a) h) s.route as
  rw [hidle]
  exact (List.foldl_hom State.route fun _ _ => rfl).symm

/-- **What a run of actions comes to.**  From any state, the period is the last that was asked for
and is not zero, the list of plugins is the last that was loaded, how far the listing has got and
the route are what the last action about them says; each of these is as before if there is no such
action.  Reloading is turned over once a toggle, and the core has loaded if it had before or loads
meanwhile.  The choice is the last that was made; where it was to have none, or where there was none
before and none was made, it is the first plugin listed since; and a choice from before stays if
none is made.  So each half of the state comes of the actions about it alone, however they are mixed
with those about the other, and an action that is about neither may come or not. -/
theorem foldl_reduce_eq (s : State) (as : List Action) :
    let t := as.foldl reduce s
    t.core.reloadPeriod = latest Action.period? s.core.reloadPeriod as ∧
    t.core.reloadEnabled = not^[as.count .reloadToggled] s.core.reloadEnabled ∧
    t.core.loaded = (s.core.loaded || decide (.coreLoaded ∈ as)) ∧
    t.core.plugins = latest Action.plugins? s.core.plugins as ∧
    t.core.listing = latest Action.listing? s.core.listing as ∧
    t.route = latest Action.route? s.route as ∧
    t.core.chosen = chosenAfter s.core.chosen as ∧
    (∀ bs : List Action, bs.filter Action.isCore = as.filter Action.isCore →
      bs.filter Action.isRoute = as.filter Action.isRoute → bs.foldl reduce s = t) ∧
    (as.filter (· ≠ .nothing)).foldl reduce s = t := by
  intro t
  refine ⟨foldl_reduce_latest (·.core.reloadPeriod) reloadPeriod_reduce s as,
    reloadEnabled_foldl_reduce s as, loaded_foldl_reduce s as,
    foldl_reduce_latest (·.core.plugins) plugins_reduce s as,
    foldl_reduce_latest (·.core.listing) listing_reduce s as,
    foldl_reduce_latest (·.route) route_reduce s as, chosen_foldl_reduce s as, ?_, ?_⟩
  · intro bs hcore hroute
    have hcore' : (bs.foldl reduce s).core = t.core := by
      rw [core_foldl_reduce, core_foldl_reduce, hcore]
    have hroute' : (bs.foldl reduce s).route = t.route := by
      rw [route_foldl_reduce, route_foldl_reduce, hroute]
    calc bs.foldl reduce s = ⟨(bs.foldl reduce s).core, (bs.foldl reduce s).route⟩ := rfl
      _ = ⟨t.core, t.route⟩ := by rw [hcore', hroute']
  · refine foldl_filter_of_idle (fun x a ha => ?_) s as
    have hnothing : a = .nothing := by simpa using ha
    rw [hnothing]
    rfl

/-- a choice undone between two listings, with the route in between and apart -/
theorem foldl_reduce_eq_mixed :
    let as : List Action :=
      [.navigated "/", .listingLoaded ["a"], .nothing, .pluginChanged "b", .routeCleared,
       .linkedPluginChanged "", .listingLoaded [], .reloadPeriodChanged 0, .navigated "/x",
       .listingLoaded ["", "c"], .listingLoaded ["d"], .reloadToggled]
    let bs : List Action :=
      [.listingLoaded ["a"], .pluginChanged "b", .linkedPluginChanged "", .listingLoaded [],
       .reloadPeriodChanged 0, .listingLoaded ["", "c"], .listingLoaded ["d"], .reloadToggled,
       .navigated "/", .nothing, .routeCleared, .navigated "/x"]
    chosenAfter (some "z") as = some "" ∧
    (as.foldl reduce State.initial).core.chosen = chosenAfter none as ∧
    bs.filter Action.isCore = as.filter Action.isCore ∧
    bs.filter Action.isRoute = as.filter Action.isRoute ∧
    bs.foldl reduce State.initial = as.foldl reduce State.initial := by
  intro as bs
  have hcore : bs.filter Action.isCore = as.filter Action.isCore := by decide
  have hroute : bs.filter Action.isRoute = as.filter Action.isRoute := by decide
  obtain ⟨-, -, -, -, -, -, hchosen, hmixed, -⟩ := foldl_reduce_eq State.initial as
  exact ⟨by decide, hchosen, hcore, hroute, hmixed bs hcore hroute⟩

end TabShell

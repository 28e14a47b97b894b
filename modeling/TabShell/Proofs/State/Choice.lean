import Mathlib.Data.List.Induction
import TabShell.Reducer
/-!
# What a listing chooses

A listing chooses its first plugin where none is chosen.  The empty name counts as no plugin where
the active plugin is read, and neither the user nor the link can choose it.  A listing that begins
with it can, and what it has chosen then keeps later listings from choosing.

* `Action.choice?`            the name that an action chooses, whatever was chosen before;
* `chosen_reduce_eq_blank`    how one action leaves the empty name chosen;
* `BlankChosen`               how a run does, and by `chosen_foldl_reduce_eq_blank` the only way;
* `activePlugin?_listing`     what a listing makes of the active plugin after any run.
-/

namespace TabShell

/-- the name that an action chooses, whatever was chosen before -/
def Action.choice? : Action → Option String
  | pluginChanged plugin => some plugin
  | linkedPluginChanged plugin => some plugin
  | _ => none

/-- a listing that begins with the empty name has come while nothing was chosen, and after it nobody
has chosen anything -/
def BlankChosen (as : List Action) : Prop :=
  ∃ xs ids ys, as = xs ++ .listingLoaded ("" :: ids) :: ys ∧
    (xs.foldl reduce State.initial).core.chosen = none ∧ ∀ a ∈ ys, a.choice? = none

theorem blankChosen_concat (as : List Action) (a : Action) :
    BlankChosen (as ++ [a]) ↔
      ((as.foldl reduce State.initial).core.chosen = none ∧ ∃ ids, a = .listingLoaded ("" :: ids)) ∨
        (BlankChosen as ∧ a.choice? = none) := by
  constructor
  · rintro ⟨xs, ids, ys, heq, hnone, hys⟩
    -- the listing is the last action, or there is a last one after it
    rcases List.eq_nil_or_concat ys with rfl | ⟨zs, b, rfl⟩
    · obtain ⟨rfl, hlast⟩ := List.append_inj' heq rfl
      exact .inl ⟨hnone, ids, List.singleton_inj.mp hlast⟩
    · rw [List.concat_eq_append, ← List.cons_append, ← List.append_assoc] at heq
      obtain ⟨rfl, hlast⟩ := List.append_inj' heq rfl
      obtain rfl := List.singleton_inj.mp hlast
      refine .inr ⟨⟨xs, ids, zs, rfl, hnone, fun c hc => hys c ?_⟩, hys a ?_⟩
      · simp [hc]
      · simp
  · rintro (⟨hnone, ids, rfl⟩ | ⟨⟨xs, ids, ys, rfl, hnone, hys⟩, ha⟩)
    · exact ⟨as, ids, [], rfl, hnone, nofun⟩
    · refine ⟨xs, ids, ys ++ [a], by simp, hnone, fun c hc => ?_⟩
      rcases List.mem_append.mp hc with hc | hc
      · exact hys c hc
      · rw [List.mem_singleton.mp hc]
        exact ha

/-- the name that is chosen is that of the active plugin, unless it is empty -/
theorem State.activePlugin?_eq_chosen {x : State} (hx : x.core.chosen ≠ some "") :
    x.activePlugin? = x.core.chosen := by
  unfold State.activePlugin?
  cases h : x.core.chosen with
  | none => rfl
  | some plugin =>
    have hne : plugin ≠ "" := fun e => hx (h.trans (congrArg some e))
    simp [Option.filter, hne]

/-- how an action makes the empty name the one that is chosen, or leaves it so -/
theorem chosen_reduce_eq_blank (x : State) (a : Action) :
    (reduce x a).core.chosen = some "" ↔
      (x.core.chosen = none ∧ ∃ ids, a = .listingLoaded ("" :: ids)) ∨
        (x.core.chosen = some "" ∧ a.choice? = none) := by
  cases a with
  | listingLoaded ids =>
    show (x.core.chosen <|> ids.head?) = some "" ↔ _
    cases hx : x.core.chosen with
    | some plugin => simp [Action.choice?]
    | none => cases ids <;> simp
  | pluginChanged plugin =>
    exact iff_of_false (choiceOf_ne_some_empty plugin) (by simp [Action.choice?])
  | linkedPluginChanged plugin =>
    exact iff_of_false (choiceOf_ne_some_empty plugin) (by simp [Action.choice?])
  | reloadPeriodChanged period =>
    show (if period = 0 then x.core else _).chosen = some "" ↔ _
    split <;> simp [Action.choice?]
  | _ => simp [reduce, Core.reduce, Action.choice?]

theorem chosen_foldl_reduce_eq_blank (as : List Action) :
    (as.foldl reduce State.initial).core.chosen = some "" ↔ BlankChosen as := by
  induction as using List.reverseRecOn with
  | nil =>
    refine iff_of_false nofun ?_
    rintro ⟨xs, ids, ys, heq, -⟩
    exact List.cons_ne_nil _ _ (List.append_eq_nil_iff.mp heq.symm).2
  | append_singleton as a ih =>
    rw [List.foldl_append, blankChosen_concat, ← ih]
    exact chosen_reduce_eq_blank _ a

/-- **What a listing makes of the active plugin.**  After any run of actions, a listing keeps the
active plugin if there is one.  If there is none, it activates its first plugin, or none if it has
none or begins with the empty name.  The runs after which it does not are those that have left the
empty name chosen: after them there is no active plugin, and no listing activates one. -/
theorem activePlugin?_listing (as : List Action) (ids : List String) :
    let s := as.foldl reduce State.initial
    let t := reduce s (.listingLoaded ids)
    (∀ p, s.activePlugin? = some p → t.activePlugin? = some p) ∧
    (s.activePlugin? = none → ¬ BlankChosen as → t.activePlugin? = ids.head?.filter (· ≠ "")) ∧
    (BlankChosen as → s.activePlugin? = none ∧ t.activePlugin? = none) ∧
    (BlankChosen as ↔ s.core.chosen = some "") := by
  intro s t
  have hblank : BlankChosen as ↔ s.core.chosen = some "" := (chosen_foldl_reduce_eq_blank as).symm
  have ht : t.activePlugin? = (s.core.chosen <|> ids.head?).filter (· ≠ "") := rfl
  refine ⟨fun p hp => ?_, fun hnone hnot => ?_, fun h => ?_, hblank⟩
  · have hchosen : s.core.chosen = some p := (State.activePlugin?_eq_some.mp hp).1
    rw [State.activePlugin?, hchosen] at hp
    rw [ht, hchosen]
    exact hp
  · have hchosen : s.core.chosen = none :=
      (State.activePlugin?_eq_chosen fun h => hnot (hblank.mpr h)).symm.trans hnone
    rw [ht, hchosen]
    rfl
  · have hchosen := hblank.mp h
    rw [ht, State.activePlugin?, hchosen]
    exact ⟨rfl, rfl⟩

/-- the empty name listed first, and forgotten by a choice or not -/
theorem activePlugin?_listing_again :
    let forgotten : List Action :=
      [.listingLoaded ["", "x"], .pluginChanged "b", .linkedPluginChanged "", .listingRequested]
    let kept : List Action := [.pluginChanged "", .listingLoaded ["", "x"], .listingFailed]
    (reduce (forgotten.foldl reduce State.initial) (.listingLoaded ["a", ""])).activePlugin? =
      some "a" ∧
    BlankChosen kept ∧
    (reduce (kept.foldl reduce State.initial) (.listingLoaded ["a", ""])).activePlugin? = none ∧
    (reduce ([.pluginChanged "b"].foldl reduce State.initial)
      (.listingLoaded ["a"])).activePlugin? = some "b" := by
  intro forgotten kept
  obtain ⟨-, hselects, -, hforgotten⟩ := activePlugin?_listing forgotten ["a", ""]
  obtain ⟨-, -, hblank, hkept⟩ := activePlugin?_listing kept ["a", ""]
  obtain ⟨hkeeps, -⟩ := activePlugin?_listing [.pluginChanged "b"] ["a"]
  have hchosen : BlankChosen kept := hkept.mpr (by decide)
  refine ⟨hselects (by decide) fun h => ?_, hchosen, (hblank hchosen).2, hkeeps "b" (by decide)⟩
  exact absurd (hforgotten.mp h) (by decide)

/-- a listing of the empty name alone, and then one of a plugin, which stays inactive -/
theorem activePlugin?_listing_blank :
    let s := [Action.listingLoaded [""]].foldl reduce State.initial
    s.activePlugin? = none ∧ (reduce s (.listingLoaded ["a"])).activePlugin? = none ∧
    (reduce s (.listingLoaded ["a"])).activePlugin? ≠ some "a" := by
  decide

end TabShell

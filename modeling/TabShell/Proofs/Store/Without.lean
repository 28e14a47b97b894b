import Mathlib.Data.List.Basic
import TabShell.Proofs.Store.Lookup
import TabShell.Proofs.Store.Views
/-!
# Without one subscriber

Had nobody come under a handle, then nothing would have happened to it, and who came later would
have the handle before.

* `past`      the handle that another subscriber would have;
* `others`    a trace without what happened to a handle, and what its views are then;
* `without`   subscribers without that of a handle, and what the operations of a store do to them.
-/

namespace TabShell

variable {V L : Type}

/-! ## handles -/

/-- the handle that another would have, had nobody come under `k` -/
def past (k h : Nat) : Nat := if h < k then h else h - 1

theorem past_of_lt {k h : Nat} (hlt : h < k) : past k h = h := if_pos hlt

theorem past_succ {k h : Nat} (hle : k ≤ h) : past k (h + 1) = h :=
  if_neg (Nat.not_lt.mpr (Nat.le_succ_of_le hle))

theorem past_inj {k h i : Nat} (hh : h ≠ k) (hi : i ≠ k) : past k h = past k i ↔ h = i := by
  unfold past
  constructor
  · split <;> split <;> omega
  · rintro rfl
    rfl

/-- what is made of a handle, unless it is `k` -/
def spare {α : Type} (k h : Nat) (make : Nat → α) : Option α :=
  if h = k then none else some (make (past k h))

theorem map_spare {α β : Type} (k h : Nat) (make : Nat → α) (f : α → β) :
    (spare k h make).map f = spare k h fun i => f (make i) := by
  unfold spare
  split <;> rfl

/-! ## traces -/

/-- what happens, unless it happens to `k` -/
def Happening.others? (k : Nat) : Happening V → Option (Happening V)
  | delivered h label value => spare k h fun i => delivered i label value
  | wrote h w => spare k h fun i => wrote i w
  | joined h => spare k h joined
  | left h => spare k h left
  | queued a => some (queued a)
  | processed o a => some (processed o a)
  | effect e => some (effect e)

/-- a trace without what happened to `k` -/
def others (k : Nat) (t : List (Happening V)) : List (Happening V) :=
  t.filterMap (Happening.others? k)

theorem others_append (k : Nat) (t u : List (Happening V)) :
    others k (t ++ u) = others k t ++ others k u := List.filterMap_append ..

theorem others_queued (k : Nat) (as : List Action) :
    others k (as.map (.queued : Action → Happening V)) = as.map .queued := by
  unfold others
  rw [List.filterMap_map]
  exact congrFun List.filterMap_eq_map as

theorem others_effects (k : Nat) (es : List Effect) :
    others k (es.map (.effect : Effect → Happening V)) = es.map .effect := by
  unfold others
  rw [List.filterMap_map]
  exact congrFun List.filterMap_eq_map es

theorem others_notes (k : Nat) (entries : List LogEntry) :
    others k (entries.map fun e => (.effect (.note e) : Happening V)) =
      entries.map fun e => .effect (.note e) := by
  have h := others_effects (V := V) k (entries.map .note)
  rwa [List.map_map] at h

theorem others_wrote {k h : Nat} (hne : h ≠ k) (ws : List Write) :
    others k (ws.map (.wrote h : Write → Happening V)) = ws.map (.wrote (past k h)) := by
  have hwrote : Happening.others? k ∘ (.wrote h : Write → Happening V) =
      some ∘ .wrote (past k h) := funext fun w => if_neg hne
  unfold others
  rw [List.filterMap_map, hwrote]
  exact congrFun List.filterMap_eq_map ws

theorem others_delivered {k h : Nat} (hne : h ≠ k) (label : String) (v : V) :
    others k [.delivered h label v] = [.delivered (past k h) label v] :=
  List.filterMap_cons_some (if_neg hne)

theorem others_delivered_self (k : Nat) (label : String) (v : V) :
    others k [.delivered k label v] = [] :=
  List.filterMap_cons_none (if_pos rfl)

theorem others_joined {k h : Nat} (hne : h ≠ k) :
    others k [(.joined h : Happening V)] = [.joined (past k h)] :=
  List.filterMap_cons_some (if_neg hne)

theorem others_joined_self (k : Nat) : others k [(.joined k : Happening V)] = [] :=
  List.filterMap_cons_none (if_pos rfl)

theorem others_action (k : Nat) (o : Origin) (a : Action) (es : List Effect) :
    others k (.processed o a :: es.map (.effect : Effect → Happening V)) =
      .processed o a :: es.map .effect := by
  show .processed o a :: others k (es.map .effect) = _
  rw [others_effects]

/-- a view of the others is a view of the trace -/
theorem filterMap_others {β : Type} {k : Nat} {f g : Happening V → Option β}
    (hf : ∀ x, (x.others? k).bind f = g x) (t : List (Happening V)) :
    (others k t).filterMap f = t.filterMap g := by
  unfold others
  rw [List.filterMap_filterMap]
  exact List.filterMap_congr fun x _ => hf x

/-- what looks at nobody's handle looks at the others -/
theorem filterMap_others_self {β : Type} {f : Happening V → Option β}
    (hf : ∀ h, (∀ label v, f (.delivered h label v) = none) ∧ (∀ w, f (.wrote h w) = none) ∧
      f (.joined h) = none ∧ f (.left h) = none) (k : Nat) (t : List (Happening V)) :
    (others k t).filterMap f = t.filterMap f := by
  refine filterMap_others (fun x => ?_) t
  cases x with
  | queued | processed | effect => rfl
  | _ =>
    simp only [Happening.others?, spare]
    split <;> simp [hf]

theorem processed_others (k : Nat) (t : List (Happening V)) :
    processed (others k t) = processed t :=
  filterMap_others_self (fun _ => ⟨fun _ _ => rfl, fun _ => rfl, rfl, rfl⟩) k t

theorem effects_others (k : Nat) (t : List (Happening V)) : effects (others k t) = effects t :=
  filterMap_others_self (fun _ => ⟨fun _ _ => rfl, fun _ => rfl, rfl, rfl⟩) k t

theorem heard_others {k h : Nat} (hne : h ≠ k) (t : List (Happening V)) :
    heard (past k h) (others k t) = heard h t := by
  refine filterMap_others (fun x => ?_) t
  cases x with
  | queued | processed | effect => rfl
  | delivered i label value =>
    simp only [Happening.others?, spare]
    split
    · next hi => exact (if_neg fun e => hne (e.symm.trans hi)).symm
    · next hi =>
      show (if past k i = past k h then some value else none) = if i = h then some value else none
      simp only [past_inj hi hne]
  | _ =>
    simp only [Happening.others?, spare]
    split <;> rfl

/-! ## subscribers -/

/-- another subscriber, under the handle that it would have -/
def Subscriber.others? (k : Nat) (x : Subscriber V L) : Option (Subscriber V L) :=
  spare k x.handle fun h => { x with handle := h }

/-- the subscribers without that of `k` -/
def without (k : Nat) (xs : List (Subscriber V L)) : List (Subscriber V L) :=
  xs.filterMap (Subscriber.others? k)

theorem without_cons_self {k : Nat} {x : Subscriber V L} (hx : x.handle = k)
    (xs : List (Subscriber V L)) : without k (x :: xs) = without k xs :=
  List.filterMap_cons_none (if_pos hx)

theorem without_cons_of_ne {k : Nat} {x : Subscriber V L} (hx : x.handle ≠ k)
    (xs : List (Subscriber V L)) :
    without k (x :: xs) = { x with handle := past k x.handle } :: without k xs :=
  List.filterMap_cons_some (if_neg hx)

theorem without_append (k : Nat) (xs ys : List (Subscriber V L)) :
    without k (xs ++ ys) = without k xs ++ without k ys := List.filterMap_append ..

/-- who came before keeps the handle -/
theorem without_of_lt {k : Nat} {xs : List (Subscriber V L)} (hxs : ∀ x ∈ xs, x.handle < k) :
    without k xs = xs := by
  induction xs with
  | nil => rfl
  | cons x xs ih =>
    have hx : x.handle < k := hxs x (List.mem_cons_self ..)
    have hrest := ih fun y hy => hxs y (List.mem_cons_of_mem _ hy)
    rw [without_cons_of_ne (Nat.ne_of_lt hx), past_of_lt hx, hrest]

theorem handles_without (k : Nat) (xs : List (Subscriber V L)) :
    (without k xs).map (·.handle) = (xs.map (·.handle)).filterMap fun h => spare k h id := by
  unfold without
  rw [List.map_filterMap, List.filterMap_map]
  exact List.filterMap_congr fun x _ => map_spare k x.handle ..

theorem without_filter {p : Subscriber V L → Bool} (hp : ∀ x h, p { x with handle := h } = p x)
    (k : Nat) (xs : List (Subscriber V L)) :
    without k (xs.filter p) = (without k xs).filter p := by
  induction xs with
  | nil => rfl
  | cons x xs ih =>
    by_cases hx : x.handle = k
    · rw [without_cons_self hx, ← ih, List.filter_cons]
      split
      · exact without_cons_self hx _
      · rfl
    · rw [without_cons_of_ne hx, List.filter_cons, List.filter_cons, hp x (past k x.handle), ← ih]
      cases p x with
      | true => exact without_cons_of_ne hx _
      | false => rfl

theorem others_lefts (k : Nat) (xs : List (Subscriber V L)) :
    others k (xs.map fun x => (.left x.handle : Happening V)) =
      (without k xs).map fun x => .left x.handle := by
  unfold others without
  rw [List.map_filterMap, List.filterMap_map]
  refine List.filterMap_congr fun x _ => ?_
  show spare k x.handle _ = Option.map _ (spare k x.handle _)
  rw [map_spare]

theorem without_map {k : Nat} {f g : Subscriber V L → Subscriber V L}
    (hhandle : ∀ x, (f x).handle = x.handle)
    (hf : ∀ x, x.handle ≠ k →
      g { x with handle := past k x.handle } = { f x with handle := past k x.handle })
    (xs : List (Subscriber V L)) : without k (xs.map f) = (without k xs).map g := by
  induction xs with
  | nil => rfl
  | cons x xs ih =>
    by_cases hx : x.handle = k
    · rw [List.map_cons, without_cons_self hx, without_cons_self ((hhandle x).trans hx), ih]
    · have hfx : (f x).handle ≠ k := fun e => hx ((hhandle x).symm.trans e)
      rw [List.map_cons, without_cons_of_ne hx, without_cons_of_ne hfx, List.map_cons, hf x hx, ih,
        hhandle]

/-- who is looked for is found in the same way, if it is not that of `k` -/
theorem find?_without {k : Nat} {p q : Subscriber V L → Bool} {xs : List (Subscriber V L)}
    (hself : ∀ x ∈ xs, x.handle = k → p x = false)
    (hp : ∀ x, x.handle ≠ k → q { x with handle := past k x.handle } = p x) :
    (without k xs).find? q = (xs.find? p).bind (Subscriber.others? k) := by
  induction xs with
  | nil => rfl
  | cons x xs ih =>
    have ih := ih fun y hy => hself y (List.mem_cons_of_mem _ hy)
    by_cases hx : x.handle = k
    · have hno : p x = false := hself x (List.mem_cons_self ..) hx
      rw [without_cons_self hx, List.find?_cons, hno, ih]
    · rw [without_cons_of_ne hx, List.find?_cons, List.find?_cons, hp x hx, ih]
      cases p x with
      | true => exact (if_neg hx).symm
      | false => rfl

theorem find?_handle_without {k h : Nat} (hne : h ≠ k) (xs : List (Subscriber V L)) :
    (without k xs).find? (fun x => decide (x.handle = past k h)) =
      (xs.find? fun x => decide (x.handle = h)).map fun x => { x with handle := past k h } := by
  rw [find?_without (p := fun x => decide (x.handle = h))
    (fun x _ hx => decide_eq_false fun e => hne (e.symm.trans hx))
    (fun x hx => decide_eq_decide.mpr (past_inj hx hne))]
  cases hfind : xs.find? fun x => decide (x.handle = h) with
  | none => rfl
  | some x =>
    have hx : x.handle = h := of_decide_eq_true (List.find?_some hfind :)
    subst hx
    exact if_neg hne

theorem without_updateFirst_self (k : Nat) (f : Listener V L → Listener V L)
    (xs : List (Subscriber V L)) :
    without k (updateFirst k (Subscriber.relisten f) xs) = without k xs := by
  induction xs with
  | nil => rfl
  | cons x xs ih =>
    unfold updateFirst
    split
    · next hx =>
      rw [without_cons_self hx]
      exact without_cons_self (x := x.relisten f) hx xs
    · next hx => rw [without_cons_of_ne hx, without_cons_of_ne hx, ih]

theorem without_updateFirst {k h : Nat} (hne : h ≠ k) (f : Listener V L → Listener V L)
    (xs : List (Subscriber V L)) :
    without k (updateFirst h (Subscriber.relisten f) xs) =
      updateFirst (past k h) (Subscriber.relisten f) (without k xs) := by
  induction xs with
  | nil => rfl
  | cons x xs ih =>
    by_cases hx : x.handle = k
    · have hh : x.handle ≠ h := fun e => hne (e.symm.trans hx)
      rw [without_cons_self hx, updateFirst, if_neg hh, without_cons_self hx, ih]
    · rw [without_cons_of_ne hx, updateFirst, updateFirst]
      by_cases hh : x.handle = h
      · rw [if_pos hh, if_pos ((past_inj hx hne).mpr hh)]
        exact without_cons_of_ne (x := x.relisten f) hx xs
      · rw [if_neg hh, without_cons_of_ne hx, ih, if_neg (mt (past_inj hx hne).mp hh)]

theorem mem_updateFirst {h : Nat} {f : Listener V L → Listener V L} {xs : List (Subscriber V L)}
    {x : Subscriber V L} (hx : x ∈ updateFirst h (Subscriber.relisten f) xs) :
    x ∈ xs ∨ ∃ y ∈ xs, y.handle = h ∧ x = y.relisten f := by
  induction xs with
  | nil => exact .inl hx
  | cons y ys ih =>
    unfold updateFirst at hx
    split at hx
    · next hy =>
      rcases List.mem_cons.mp hx with rfl | hx
      · exact .inr ⟨y, List.mem_cons_self .., hy, rfl⟩
      · exact .inl (List.mem_cons_of_mem _ hx)
    · rcases List.mem_cons.mp hx with rfl | hx
      · exact .inl (List.mem_cons_self ..)
      · rcases ih hx with hx | ⟨z, hz, hzx⟩
        · exact .inl (List.mem_cons_of_mem _ hx)
        · exact .inr ⟨z, List.mem_cons_of_mem _ hz, hzx⟩

end TabShell

import TabShell.Proofs.Location.Values
/-!
# The order of a location's parameters

A value that is kept puts the parameters in the order of their keys' bytes; a parameter that is
taken away leaves the others where they are.  Parameters in order are known by what each key holds,
and what a key holds does not depend on how often and in which order other keys were written.

* `Location.Ordered`      parameters in the order of their keys' bytes;
* `eq_of_valuesOf`        they are the same if each key holds the same;
* `update_update`, `update_comm`   parameters written twice under one key, and under two keys;
* `set_absorbs`, `set_comm`        the same for fragments;
* `Location.Tidy`         a fragment in the form that writing gives it;
* `set_get_eq_iff`        no other is left alone when its own value is written back;
* `Location.rewritten`    a fragment after that.
-/

namespace TabShell

open Text Fragment

theorem utf8_inj {s t : List Char} (h : utf8 s = utf8 t) : s = t := by
  have hread := congrArg decode? h
  rw [decode?_utf8, decode?_utf8] at hread
  exact Option.some.inj hread

theorem valuesOf_cons (key : String) (p : Param) (ps : List Param) :
    valuesOf key (p :: ps) =
      if p.key = key then p.value :: valuesOf key ps else valuesOf key ps := by
  by_cases h : p.key = key <;> simp [valuesOf, h]

theorem exists_mem_of_valuesOf_ne_nil {key : String} {ps : List Param} (h : valuesOf key ps ≠ []) :
    ∃ p ∈ ps, p.key = key := by
  obtain ⟨v, hv⟩ := List.exists_mem_of_ne_nil _ h
  obtain ⟨p, hp, -⟩ := List.mem_map.mp hv
  obtain ⟨hmem, hkey⟩ := List.mem_filter.mp hp
  exact ⟨p, hmem, of_decide_eq_true hkey⟩

namespace Location

/-- parameters in the order of their keys' bytes -/
def Ordered (ps : List Param) : Prop := ps.Pairwise fun p q => utf8 p.key.toList ≤ utf8 q.key.toList

variable {ps qs : List Param} {v w : Write}

theorem head_le {p q : Param} (hq : Ordered (q :: qs)) (h : valuesOf p.key (q :: qs) ≠ []) :
    utf8 q.key.toList ≤ utf8 p.key.toList := by
  obtain ⟨r, hr, hkey⟩ := exists_mem_of_valuesOf_ne_nil h
  rw [← hkey]
  rcases List.mem_cons.mp hr with rfl | hr
  · exact List.le_refl _
  · exact (List.pairwise_cons.mp hq).1 r hr

/-- parameters in order are known by what each key holds -/
theorem eq_of_valuesOf (hp : Ordered ps) (hq : Ordered qs)
    (h : ∀ key, valuesOf key ps = valuesOf key qs) : ps = qs := by
  induction ps generalizing qs with
  | nil =>
    cases qs with
    | nil => rfl
    | cons q qs =>
      have hq' := h q.key
      rw [valuesOf_cons, if_pos rfl] at hq'
      cases hq'
  | cons p ps ih =>
    have hhead : valuesOf p.key (p :: ps) = p.value :: valuesOf p.key ps := by
      rw [valuesOf_cons, if_pos rfl]
    cases qs with
    | nil =>
      rw [h p.key] at hhead
      cases hhead
    | cons q qs =>
      have hhead' : valuesOf q.key (q :: qs) = q.value :: valuesOf q.key qs := by
        rw [valuesOf_cons, if_pos rfl]
      -- each head has its key in the other list too, so neither comes before the other
      have hkey : p.key = q.key := by
        have hqp := head_le hq (p := p) (by rw [← h p.key, hhead]; exact List.cons_ne_nil _ _)
        have hpq := head_le hp (p := q) (by rw [h q.key, hhead']; exact List.cons_ne_nil _ _)
        exact String.toList_inj.mp (utf8_inj (List.le_antisymm hpq hqp))
      have hvalues : p.value :: valuesOf p.key ps = q.value :: valuesOf p.key qs := by
        rw [← hhead, h p.key, hkey, hhead']
      have hpq : p = q := by
        cases p
        cases q
        simp only [Param.mk.injEq]
        exact ⟨hkey, (List.cons.inj hvalues).1⟩
      subst hpq
      have htail : ps = qs := by
        refine ih (List.pairwise_cons.mp hp).2 (List.pairwise_cons.mp hq).2 fun key => ?_
        by_cases hk : p.key = key
        · subst hk
          exact (List.cons.inj hvalues).2
        · have hrest := h key
          rw [valuesOf_cons, valuesOf_cons, if_neg hk, if_neg hk] at hrest
          exact hrest
      rw [htail]

/-! ## two writes to the parameters -/

theorem update_of_eq_default (h : w.value = w.default) (ps : List Param) :
    update ps w = ps.filter (·.key ≠ w.key) := if_pos h

theorem ordered_update (h : w.value ≠ w.default ∨ Ordered ps) : Ordered (update ps w) := by
  by_cases hd : w.value = w.default
  · rw [update_of_eq_default hd]
    exact List.Pairwise.filter _ (h.resolve_left fun hne => hne hd)
  · exact sorted_update hd ps

theorem valuesOf_update_update (hkey : v.key = w.key) (ps : List Param) (key : String) :
    valuesOf key (update (update ps v) w) = valuesOf key (update ps w) := by
  rw [valuesOf_update key (update ps v) w, valuesOf_update key ps w]
  by_cases h : key = w.key
  · rw [if_pos h, if_pos h]
  · have hv : key ≠ v.key := fun e => h (e.trans hkey)
    rw [if_neg h, if_neg h, valuesOf_update, if_neg hv]

/-- the later of two writes to a key is as if it were the only one, but for the order: if it takes
away what the earlier one kept, the others have been put in order -/
theorem update_update (hkey : v.key = w.key) (ps : List Param) :
    update (update ps v) w = update ps w ↔
      w.value ≠ w.default ∨ v.value = v.default ∨ Ordered (ps.filter (·.key ≠ w.key)) := by
  by_cases hw : w.value = w.default
  · have hlast : update ps w = ps.filter (·.key ≠ w.key) := update_of_eq_default hw ps
    by_cases hv : v.value = v.default
    · refine iff_of_true ?_ (.inr (.inl hv))
      rw [hlast, update_of_eq_default hw, update_of_eq_default hv, hkey, List.filter_filter]
      simp only [Bool.and_self]
    · have hfirst : Ordered (update (update ps v) w) := ordered_update (.inr (sorted_update hv ps))
      constructor
      · intro heq
        rw [heq, hlast] at hfirst
        exact .inr (.inr hfirst)
      · intro h
        have hordered : Ordered (update ps w) := by
          rw [hlast]
          exact (h.resolve_left fun hne => hne hw).resolve_left hv
        exact eq_of_valuesOf hfirst hordered (valuesOf_update_update hkey ps)
  · exact iff_of_true
      (eq_of_valuesOf (sorted_update hw _) (sorted_update hw ps) (valuesOf_update_update hkey ps))
      (.inl hw)

theorem valuesOf_update_comm (hkey : v.key ≠ w.key) (ps : List Param) (key : String) :
    valuesOf key (update (update ps v) w) = valuesOf key (update (update ps w) v) := by
  simp only [valuesOf_update]
  by_cases hv : key = v.key
  · have hw : key ≠ w.key := fun e => hkey (hv.symm.trans e)
    simp only [if_pos hv, if_neg hw]
  · simp only [if_neg hv]

/-- writes to different keys may be exchanged -/
theorem update_comm (hkey : v.key ≠ w.key) (ps : List Param) :
    update (update ps v) w = update (update ps w) v := by
  by_cases hkept : v.value ≠ v.default ∨ w.value ≠ w.default
  · -- one of them keeps its value, so that both ways the parameters end in order
    have hvw : Ordered (update (update ps v) w) :=
      ordered_update (hkept.symm.imp_right fun h => sorted_update h ps)
    have hwv : Ordered (update (update ps w) v) :=
      ordered_update (hkept.imp_right fun h => sorted_update h ps)
    exact eq_of_valuesOf hvw hwv (valuesOf_update_comm hkey ps)
  · obtain ⟨hv, hw⟩ := not_or.mp hkept
    have hv' := Decidable.not_not.mp hv
    have hw' := Decidable.not_not.mp hw
    rw [update_of_eq_default hw', update_of_eq_default hv', update_of_eq_default hv',
      update_of_eq_default hw', List.filter_filter, List.filter_filter]
    exact List.filter_congr fun p _ => Bool.and_comm _ _

/-! ## two writes to a fragment -/

/-- a fragment that was written is known by its parameters -/
theorem current_set_inj {l m : Location} :
    (l.set v).current = (m.set w).current ↔ update l.params v = update m.params w := by
  constructor
  · intro h
    rw [← params_set l v, ← params_set m w]
    exact congrArg (fun f : String => Param.decodeAll f.toList) h
  · intro h
    rw [current_set, current_set, h]

/-- **Overwriting absorbs.**  Of two writes to a key, any values, defaults and ways to enter them in
the history, the fragment shows only the later one, if that one keeps its value, or the earlier one
keeps none, or the parameters were in order before; otherwise it does so only if the parameters of
the other keys were in order.  To write what was written last changes neither the fragment nor the
history, whether or not it is to replace the current entry. -/
theorem set_absorbs (l : Location) (key v₁ v₂ d₁ d₂ : String) (r₁ r₂ : Bool) :
    let first : Write := ⟨key, v₁, r₁, d₁⟩
    let second : Write := ⟨key, v₂, r₂, d₂⟩
    (v₂ ≠ d₂ ∨ v₁ = d₁ ∨ Ordered l.params →
      ((l.set first).set second).current = (l.set second).current) ∧
    (((l.set first).set second).current = (l.set second).current →
      v₂ ≠ d₂ ∨ v₁ = d₁ ∨ Ordered (l.params.filter (·.key ≠ key))) ∧
    ∀ r, (l.set first).set ⟨key, v₁, r, d₁⟩ = l.set first := by
  intro first second
  have habsorbs : ((l.set first).set second).current = (l.set second).current ↔
      v₂ ≠ d₂ ∨ v₁ = d₁ ∨ Ordered (l.params.filter (·.key ≠ key)) := by
    rw [current_set_inj, params_set]
    exact update_update (v := first) (w := second) rfl l.params
  refine ⟨fun h => habsorbs.mpr ?_, habsorbs.mp, fun r => ?_⟩
  · exact h.imp_right (Or.imp_right fun hordered => hordered.filter _)
  · -- either the value is kept, or it is the default both times
    have hagain : update (update l.params first) ⟨key, v₁, r, d₁⟩ = update l.params first :=
      (update_update (v := first) rfl l.params).mpr ((Decidable.em (v₁ = d₁)).symm.imp_right Or.inl)
    have hsame : String.ofList (Param.encodeAll (update (l.set first).params ⟨key, v₁, r, d₁⟩)) =
        (l.set first).current := by
      rw [params_set, hagain, current_set]
    unfold set at hsame ⊢
    rw [hsame]
    exact navigate_current _ r

/-- a value is taken away again, where the other keys are in order and where they are not -/
theorem set_absorbs_unordered :
    let l := ofFragment "#a=%zz&&b=1&b=2&c"
    let m := ofFragment "#z=1&a=%zz&z=%31"
    Ordered l.params ∧
    ((l.set ⟨"b", "x y", true, ""⟩).set ⟨"b", "&", false, "&"⟩).current = "a=%25zz&c=" ∧
    ((m.set ⟨"b", "x y", true, ""⟩).set ⟨"b", "&", false, "&"⟩).current ≠
      (m.set ⟨"b", "&", false, "&"⟩).current ∧
    (m.set ⟨"b", "x y", true, ""⟩).set ⟨"b", "x y", false, ""⟩ = m.set ⟨"b", "x y", true, ""⟩ := by
  intro l m
  have hordered : Ordered l.params := by
    unfold Ordered
    decide +kernel
  have hunordered : ¬ Ordered (m.params.filter (·.key ≠ "b")) := by
    unfold Ordered
    decide +kernel
  obtain ⟨habsorbed, -, -⟩ := set_absorbs l "b" "x y" "&" "" "&" true false
  obtain ⟨-, honly, hagain⟩ := set_absorbs m "b" "x y" "&" "" "&" true false
  refine ⟨hordered, (habsorbed (.inr (.inr hordered))).trans (by decide +kernel), fun heq => ?_,
    hagain false⟩
  rcases honly heq with h | h | h
  · exact h rfl
  · exact absurd h (by decide)
  · exact hunordered h

/-- **Writes to different keys commute.**  Whatever the fragment held, and whatever the values,
their defaults and the ways to enter them in the history are, the order of two writes to different
keys does not show in the fragment. -/
theorem set_comm (l : Location) (v w : Write) (hkey : v.key ≠ w.key) :
    ((l.set v).set w).current = ((l.set w).set v).current := by
  rw [current_set_inj, params_set, params_set]
  exact update_comm hkey l.params

/-- a value kept and one taken away, among badly written and repeated ones -/
theorem set_comm_misspelt :
    let l := ofFragment "a=%FF&&a=%zz&a"
    let v : Write := ⟨"b&", "=", false, ""⟩
    let w : Write := ⟨"a", "x", true, "x"⟩
    v.key ≠ w.key ∧ ((l.set v).set w).current = "b%26=%3D" := by
  intro l v w
  have hkey : v.key ≠ w.key := by decide
  exact ⟨hkey, (set_comm l v w hkey).trans (by decide +kernel)⟩

/-! ## a value written back -/

/-- a fragment in the form that writing gives it: its parameters are spelt as writing spells them,
and what the key holds, if anything, is one value that is kept, with all parameters in order -/
def Tidy (key default fragment : String) : Prop :=
  ∃ ps, fragment = String.ofList (Param.encodeAll ps) ∧
    (valuesOf key ps = [] ∨
      Ordered ps ∧ ∃ value, value ≠ default ∧ valuesOf key ps = [value])

theorem filter_of_valuesOf_eq_nil {key : String} (h : valuesOf key ps = []) :
    ps.filter (·.key ≠ key) = ps := by
  refine List.filter_eq_self.mpr fun p hp => decide_eq_true fun hkey => ?_
  have hmem : p ∈ ps.filter (·.key = key) := List.mem_filter.mpr ⟨hp, decide_eq_true hkey⟩
  rw [List.map_eq_nil_iff.mp h] at hmem
  cases hmem

/-- a value written back where it was read leaves the tidy fragments as they are, and no others; a
missing value is one only if it is the default -/
theorem set_get_eq_iff (l : Location) {key default : String} (replace : Bool)
    (h : default = "" ∨ l.values key ≠ []) :
    (l.set ⟨key, l.get key, replace, default⟩).current = l.current ↔
      Tidy key default l.current := by
  let w : Write := ⟨key, l.get key, replace, default⟩
  constructor
  · intro heq
    have hupdate : update l.params w = l.params :=
      (params_set l w).symm.trans (congrArg (fun f : String => Param.decodeAll f.toList) heq)
    have hvalues : valuesOf key l.params = if l.get key = default then [] else [l.get key] := by
      rw [← hupdate]
      exact (valuesOf_update key l.params w).trans (if_pos rfl)
    refine ⟨l.params, ?_, ?_⟩
    · rw [← heq, current_set, hupdate]
    · by_cases hd : l.get key = default
      · rw [if_pos hd] at hvalues
        exact .inl hvalues
      · rw [if_neg hd] at hvalues
        refine .inr ⟨?_, l.get key, hd, hvalues⟩
        rw [← hupdate]
        exact sorted_update (w := w) hd l.params
  · rintro ⟨ps, hspelt, hps⟩
    have hparams : l.params = ps := by
      unfold params
      rw [hspelt, String.toList_ofList, Param.decodeAll_encodeAll]
    subst hparams
    rw [current_set, hspelt]
    refine congrArg (fun qs => String.ofList (Param.encodeAll qs)) ?_
    have hget := l.get_eq_head key
    rcases hps with hnone | ⟨hordered, value, hvalue, hone⟩
    · have hempty : l.get key = "" := by rw [hget, values, hnone]; rfl
      have hd : default = "" := h.resolve_right fun hsome => hsome hnone
      rw [update_of_eq_default (w := w) (hempty.trans hd.symm)]
      exact filter_of_valuesOf_eq_nil hnone
    · have hvalue' : l.get key = value := by rw [hget, values, hone]; rfl
      have hkept : l.get key ≠ default := fun e => hvalue (hvalue'.symm.trans e)
      refine eq_of_valuesOf (sorted_update (w := w) hkept l.params) hordered fun other => ?_
      rw [valuesOf_update other l.params w]
      by_cases hkey : other = key
      · rw [if_pos hkey, if_neg hkept, hkey, hone]
        exact congrArg (fun v => [v]) hvalue'
      · exact if_neg hkey

/-- a fragment after the value that it holds under a key is written back -/
def rewritten (key default fragment : String) : String :=
  ((ofFragment fragment).set ⟨key, (ofFragment fragment).get key, false, default⟩).current

theorem rewritten_eq_iff {key default fragment : String}
    (h : default = "" ∨ (ofFragment fragment).values key ≠ []) :
    rewritten key default fragment = stripHash fragment ↔ Tidy key default (stripHash fragment) :=
  set_get_eq_iff (ofFragment fragment) false h

theorem history_set_edit (l : Location) (key default fragment : String) :
    ((l.edit fragment).set ⟨key, (ofFragment fragment).get key, false, default⟩).history =
      (l.edit fragment).history ++
        if rewritten key default fragment = stripHash fragment then []
        else [rewritten key default fragment] := by
  have hwritten : String.ofList (Param.encodeAll (update (l.edit fragment).params
      ⟨key, (ofFragment fragment).get key, false, default⟩)) = rewritten key default fragment := by
    rw [params_edit]
    exact (current_set ..).symm
  unfold set
  rw [hwritten, history_navigate, current_edit]

end Location

end TabShell
